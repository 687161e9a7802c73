import TubMonitor.Proofs.Console.Grammar
import TubMonitor.Proofs.Console.Scenes
import TubMonitor.Proofs.Sensors.Generator

/-!
# Rounds

A round is one line with all that comes of it: the turns of the console that it takes, and
the reply.  What the command of a line asks for is done in its round, and nothing else.
-/

namespace TubMonitor
namespace Console

open Monitor (Call Snapshot)

/-!
## Replies

A reply says that all is well, or what is wrong.
-/

def replyText : Except String String -> String
  | .ok text => text
  | .error text => Session.errorText text

/-- The reply to an order that is told, if all is well, in these words. -/
def orderReply (success : String) (outcome : Except Fault Unit) : Except String String :=
  (outcome.map fun _ => success).mapError Fault.message

theorem orderReply_text (success : String) (outcome : Except Fault Unit) :
    replyText (orderReply success outcome) = Session.outcomeText success outcome := by
  cases outcome <;> rfl

def SoundsWrong (text : String) : Prop :=
  "error: ".toList <+: text.toList

theorem soundsWrong_error (text : String) : SoundsWrong (Session.errorText text) := by
  rw [SoundsWrong, Session.errorText, String.toList_append]
  exact List.prefix_append ..

theorem not_soundsWrong {text : String} {c : Char} (hText : text.toList.head? = some c)
    (hFirst : c ≠ 'e') : ¬ SoundsWrong text := by
  rintro ⟨after, h⟩
  rw [← h] at hText
  exact hFirst (Option.some.inj hText).symm

theorem head?_intercalate {glue first : String} (rest : List String) {c : Char}
    (h : first.toList.head? = some c) :
    (String.intercalate glue (first :: rest)).toList.head? = some c := by
  rw [String.toList_intercalate, List.map_cons]
  cases rest with
  | nil => simpa using h
  | cons next rest => simp [List.intercalate_cons_cons, h]

/-!
## What a command asks for
-/

/-- The commands that a loop carries out, and the words in which their success is told. -/
inductive Orders : Command -> Order -> String -> Prop where
  | ozoneStart (minutes : Nat) :
      Orders (.ozoneStart minutes) (.ozone (.start minutes))
        ("Ozone started for " ++ toString minutes ++ " minutes")
  | ozoneStop : Orders .ozoneStop (.ozone .stop) "Ozone stopped"
  | target (degrees : Float) :
      Orders (.target degrees) (.target (some degrees))
        ("Watching for water at " ++ Temperature.degreesText degrees)
  | clearTarget : Orders .clearTarget (.target none) "Target cleared"

/-- The commands that are calls about the pump, which is not switched on while a leak is shown. -/
inductive Calls (snapshot : Snapshot) : PumpAction -> Call -> Prop where
  | on (hDry : snapshot.leakPresent = false) :
      Calls snapshot .on (.sensors (.switch .pump true))
  | off : Calls snapshot .off (.sensors (.switch .pump false))
  | status : Calls snapshot .status (.sensors .pumpStatus)

/-- The commands that are answered at once. -/
inductive Tells (snapshot : Snapshot) : Command -> Except String String -> Prop where
  | status : Tells snapshot .status (.ok (statusText snapshot))
  | help : Tells snapshot .help (.ok helpText)
  | leak (hWet : snapshot.leakPresent = true) :
      Tells snapshot (.pump .on) (.error "leak present; pump stays off")

theorem orders_not_wrong {command : Command} {order : Order} {success : String}
    (h : Orders command order success) : ¬ SoundsWrong success := by
  cases h with
  | ozoneStart minutes =>
      exact not_soundsWrong (c := 'O') (by simp [String.toList_append]) (by decide)
  | ozoneStop => exact not_soundsWrong (c := 'O') rfl (by decide)
  | target degrees =>
      exact not_soundsWrong (c := 'W') (by simp [String.toList_append]) (by decide)
  | clearTarget => exact not_soundsWrong (c := 'T') rfl (by decide)

theorem tells_not_wrong {snapshot : Snapshot} {command : Command} {text : String}
    (h : Tells snapshot command (.ok text)) : ¬ SoundsWrong text := by
  cases h with
  | status =>
      exact not_soundsWrong (c := 'W') (head?_intercalate _ (by simp)) (by decide)
  | help => exact not_soundsWrong (c := 'C') (head?_intercalate _ rfl) (by decide)

/-!
## What comes of a line
-/

theorem refusal_some {line : String} {refusal : Refusal}
    (hWords : Text.isBlankLine line.toList = false) (hRead : Command.read line = .error refusal) :
    refusal ≠ .empty := by
  rintro rfl
  rw [read_empty_iff, hWords] at hRead
  cases hRead

/-- The next line is taken: what the console does with it, and how it goes on. -/
inductive Takes (snapshot : Snapshot) (line : String) (rest : List String) :
    Session × List Effect -> Prop where
  | blank (hBlank : Text.isBlankLine line.toList = true) :
      Takes snapshot line rest (⟨rest, .ready⟩, [])
  | refused {refusal : Refusal} (hWords : Text.isBlankLine line.toList = false)
      (hRead : Command.read line = .error refusal) :
      Takes snapshot line rest (⟨rest, .ready⟩, [.print (Session.refusalText refusal)])
  | told {command : Command} {reply : Except String String}
      (hRead : Command.read line = .ok command) (hTells : Tells snapshot command reply) :
      Takes snapshot line rest (⟨rest, .ready⟩, [.print (replyText reply)])
  | ordered {command : Command} {order : Order} {success : String}
      (hRead : Command.read line = .ok command) (hOrders : Orders command order success) :
      Takes snapshot line rest (⟨rest, .ordering success⟩, [.order order])
  | called {action : PumpAction} {call : Call} (hRead : Command.read line = .ok (.pump action))
      (hCalls : Calls snapshot action call) :
      Takes snapshot line rest (⟨rest, .calling action⟩, [.call call])
  | quit (hRead : Command.read line = .ok .quit) :
      Takes snapshot line rest (⟨rest, .finished⟩, [])

theorem take_takes (snapshot : Snapshot) (line : String) (rest : List String) :
    Takes snapshot line rest (Session.take ⟨rest, .ready⟩ snapshot line) := by
  unfold Session.take
  cases hBlank : Text.isBlankLine line.toList with
  | true => exact .blank hBlank
  | false =>
      rw [if_neg Bool.false_ne_true]
      cases hRead : Command.read line with
      | error refusal => exact .refused hBlank hRead
      | ok command =>
          cases command with
          | ozoneStart minutes => exact .ordered hRead (.ozoneStart minutes)
          | ozoneStop => exact .ordered hRead .ozoneStop
          | target degrees => exact .ordered hRead (.target degrees)
          | clearTarget => exact .ordered hRead .clearTarget
          | pump action =>
              cases action with
              | on =>
                  simp only [Session.execute]
                  cases hLeak : snapshot.leakPresent with
                  | true => exact .told hRead (.leak hLeak)
                  | false => exact .called hRead (.on hLeak)
              | off => exact .called hRead .off
              | status => exact .called hRead .status
          | status => exact .told hRead .status
          | help => exact .told hRead .help
          | quit => exact .quit hRead

/-- The console takes a line only when the one before it is done with. -/
theorem step_next (rest : List String) (line : String) (snapshot : Snapshot) :
    Session.step ⟨line :: rest, .ready⟩ (.next snapshot) =
      Session.take ⟨rest, .ready⟩ snapshot line := rfl

end Console

namespace Monitor

/-!
## The pump
-/

/-- What came of a call about the pump: either it has done what it was to do, or it has failed and
changed nothing. -/
inductive Pumped (now : Nat) (before after : Outside) : Call -> Except String String -> Prop where
  | switched {on : Bool} (hPower : after.bank.isPowered? .pump = some on) :
      Pumped now before after (.sensors (.switch .pump on))
        (.ok (if on then "Pump on" else "Pump off"))
  | read {on : Bool} (hLevel : before.bank.isPumpOn = .ok on) (hSame : after = before) :
      Pumped now before after (.sensors .pumpStatus)
        (.ok (if on then "Pump is on" else "Pump is off"))
  | failed {call : Call} {fault : Fault} (hFault : (before.answer now call).1 = call.failed fault)
      (hSame : after = before) : Pumped now before after call (.error fault.message)

theorem pumped_not_wrong {now : Nat} {before after : Outside} {call : Call} {text : String}
    (h : Pumped now before after call (.ok text)) : ¬ Console.SoundsWrong text := by
  cases h with
  | @switched on hPower =>
      cases on with
      | true => exact Console.not_soundsWrong (c := 'P') rfl (by decide)
      | false => exact Console.not_soundsWrong (c := 'P') rfl (by decide)
  | @read on hLevel hSame =>
      cases on with
      | true => exact Console.not_soundsWrong (c := 'P') rfl (by decide)
      | false => exact Console.not_soundsWrong (c := 'P') rfl (by decide)

/-- The reply to a call is printed, and says what came of it. -/
def Reports (o : Outside) (now : Nat) (action : Console.PumpAction) (call : Call) : Prop :=
  exists reply, Pumped now o (o.answer now call).2 call reply ∧
    forall rest, Console.Session.step ⟨rest, .calling action⟩ (.reply (o.answer now call).1) =
      (⟨rest, .ready⟩, [.print (Console.replyText reply)])

theorem reports_failed {o : Outside} {now : Nat} {fault : Fault} {snapshot : Snapshot}
    {action : Console.PumpAction} {call : Call} (hCalls : Console.Calls snapshot action call)
    (h : o.answer now call = (call.failed fault, o)) : Reports o now action call := by
  refine ⟨.error fault.message, .failed (congrArg Prod.fst h) (congrArg Prod.snd h), ?_⟩
  intro rest
  rw [h]
  cases hCalls <;> rfl

theorem reports_switch {o : Outside} {now : Nat} {snapshot : Snapshot}
    {action : Console.PumpAction} {on : Bool}
    (hCalls : Console.Calls snapshot action (.sensors (.switch .pump on)))
    (hText : Console.Session.switchText action = if on then "Pump on" else "Pump off") :
    Reports o now action (.sensors (.switch .pump on)) := by
  rcases answer_cases o now (.sensors (.switch .pump on)) with
    ⟨fault, _, hAnswer⟩ | ⟨_, ⟨request, hCall, hAnswer⟩ | ⟨request, hCall, _⟩⟩
  · exact reports_failed hCalls hAnswer
  · cases hCall
    rw [Sensors.answer_switch] at hAnswer
    cases hOutcome : (o.bank.switch .pump on).1 with
    | ok =>
        rw [hOutcome] at hAnswer
        refine ⟨_, .switched ?_, fun rest => ?_⟩
        · rw [hAnswer]
          exact Sensors.isPowered?_switch hOutcome
        · rw [hAnswer, ← hText]
          rfl
    | error fault =>
        rw [hOutcome, Sensors.switch_refused hOutcome] at hAnswer
        exact reports_failed hCalls hAnswer
  · cases hCall

theorem reports_status {o : Outside} {now : Nat} {snapshot : Snapshot}
    (hCalls : Console.Calls snapshot .status (.sensors .pumpStatus)) :
    Reports o now .status (.sensors .pumpStatus) := by
  rcases answer_cases o now (.sensors .pumpStatus) with
    ⟨fault, _, hAnswer⟩ | ⟨_, ⟨request, hCall, hAnswer⟩ | ⟨request, hCall, _⟩⟩
  · exact reports_failed hCalls hAnswer
  · cases hCall
    rw [Sensors.Bank.answer] at hAnswer
    cases hLevel : o.bank.isPumpOn with
    | ok on =>
        rw [hLevel] at hAnswer
        refine ⟨_, .read hLevel (congrArg Prod.snd hAnswer), fun rest => ?_⟩
        rw [hAnswer]
        rfl
    | error fault =>
        rw [hLevel] at hAnswer
        exact reports_failed hCalls hAnswer
  · cases hCall

theorem reports {snapshot : Snapshot} {action : Console.PumpAction} {call : Call}
    (hCalls : Console.Calls snapshot action call) (o : Outside) (now : Nat) :
    Reports o now action call := by
  have hSame := hCalls
  cases hCalls with
  | on hDry => exact reports_switch hSame rfl
  | off => exact reports_switch hSame rfl
  | status => exact reports_status hSame

/-!
## One turn of the console
-/

section Turn

variable {s served next : Monitor} {event : Console.Event}
  {result : Console.Session × List Console.Effect} {rest : List String}

theorem moves_ready (h : ConsoleMoves s ⟨⟨rest, .ready⟩, none⟩ event result served next) :
    exists first left, rest = first :: left ∧ served = s ∧
      Console.Takes s.snapshot first left result := by
  have hStep := h.step
  cases h.serves with
  | reply hPending hDue => cases hPending
  | ordered hFree hOrdering hResult => cases hOrdering
  | next hFree hReady hLines =>
      rcases List.exists_cons_of_ne_nil hLines with ⟨first, left, hRest⟩
      dsimp only at hRest
      subst hRest
      have hTakes := Console.take_takes s.snapshot first left
      rw [← Console.step_next, hStep] at hTakes
      exact ⟨first, left, rfl, rfl, hTakes⟩

theorem moves_ordering {success : String}
    (h : ConsoleMoves s ⟨⟨rest, .ordering success⟩, none⟩ event result served next) :
    exists outcome, outcomeOf s.results s.consoleTicket = some outcome ∧ served = s ∧
      result =
        (⟨rest, .ready⟩, [.print (Console.replyText (Console.orderReply success outcome))]) := by
  have hStep := h.step
  cases h.serves with
  | reply hPending hDue => cases hPending
  | next hFree hReady hLines => cases hReady
  | @ordered told found hFree hOrdering hResult =>
      cases hOrdering
      refine ⟨found.outcome, congrArg (Option.map Result.outcome) hResult, rfl, ?_⟩
      rw [Console.orderReply_text]
      exact hStep.symm

theorem moves_calling {snapshot : Snapshot} {action : Console.PumpAction} {call : Call}
    {due : Nat} (hCalls : Console.Calls snapshot action call)
    (h : ConsoleMoves s ⟨⟨rest, .calling action⟩, some ⟨call, due⟩⟩ event result served next) :
    exists reply, Pumped s.now s.outside served.outside call reply ∧ served.printed = s.printed ∧
      result = (⟨rest, .ready⟩, [.print (Console.replyText reply)]) := by
  have hStep := h.step
  cases h.serves with
  | next hFree hReady hLines => cases hFree
  | ordered hFree hOrdering hResult => cases hFree
  | reply hPending hDue =>
      cases hPending
      rcases reports hCalls s.outside s.now with ⟨reply, hPumped, hReports⟩
      exact ⟨reply, hPumped, rfl, hStep.symm.trans (hReports rest)⟩

theorem not_moves_finished
    (h : ConsoleMoves s ⟨⟨rest, .finished⟩, none⟩ event result served next) : False := by
  cases h.serves with
  | reply hPending hDue => cases hPending
  | next hFree hReady hLines => cases hReady
  | ordered hFree hOrdering hResult => cases hOrdering

end Turn

end Monitor
end TubMonitor
