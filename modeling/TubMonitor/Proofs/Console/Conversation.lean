import TubMonitor.Proofs.Console.Rounds

/-!
# Conversations

At any instant the lines given to a console fall into three parts: those that are done with,
each with its round, the one that the console is occupied with, and those that are left.
Every turn of the console belongs to one of the rounds or to the line under way, and every
reply that is printed is the reply of a round.
-/

namespace TubMonitor
namespace Monitor

open Console (Command Orders Calls Tells replyText orderReply)

/-!
## Lines that are done with
-/

/-- A line that is done with: the turns of the console that it took, and the reply if any. -/
structure Round where
  line : String
  turns : List Scene
  reply : Option (Except String String)

def Round.printed? (round : Round) : Option String :=
  round.reply.map replyText

/-- Nothing but what the line asks for is done in its round. -/
inductive Served (past : List Scene) (s : Monitor) : Round -> Prop where
  | blank {line : String} {scene : Scene} (hBlank : Text.isBlankLine line.toList = true)
      (hDoes : scene.consoleEffects = []) : Served past s ⟨line, [scene], none⟩
  | refused {line : String} {scene : Scene} {refusal : Console.Refusal}
      (hWords : Text.isBlankLine line.toList = false) (hSome : refusal ≠ .empty)
      (hRead : Command.read line = .error refusal)
      (hDoes : scene.consoleEffects = [.print (Console.Session.refusalText refusal)]) :
      Served past s ⟨line, [scene], some (.error (refusal.message ++ " (type 'help')"))⟩
  | told {line : String} {scene : Scene} {command : Command} {reply : Except String String}
      (hRead : Command.read line = .ok command)
      (hTells : Tells scene.before.snapshot command reply)
      (hDoes : scene.consoleEffects = [.print (replyText reply)]) :
      Served past s ⟨line, [scene], some reply⟩
  /-- A loop has answered before the console goes on. -/
  | ordered {line success : String} {sent last : Scene} {command : Command}
      {order : Console.Order} {outcome : Except Fault Unit}
      (hRead : Command.read line = .ok command) (hOrders : Orders command order success)
      (hSent : sent ∈ past) (hSends : sent.consoleEffects = [.order order])
      (hAnswer : last.before.answer? sent order = some outcome)
      (hCameOut : CameOut past s sent order outcome)
      (hDoes : last.consoleEffects = [.print (replyText (orderReply success outcome))]) :
      Served past s ⟨line, [sent, last], some (orderReply success outcome)⟩
  /-- The call has come through before the console goes on. -/
  | called {line : String} {asked last : Scene} {action : Console.PumpAction} {call : Call}
      {reply : Except String String} (hRead : Command.read line = .ok (.pump action))
      (hCalls : Calls asked.before.snapshot action call)
      (hAsks : asked.consoleEffects = [.call call])
      (hPumped : Pumped last.before.now last.before.outside last.after.outside call reply)
      (hDoes : last.consoleEffects = [.print (replyText reply)]) :
      Served past s ⟨line, [asked, last], some reply⟩

section Served

variable {past : List Scene} {s : Monitor} {round : Round}

theorem served_silent (h : Served past s round) :
    round.reply = none ↔ Text.isBlankLine round.line.toList = true := by
  cases h with
  | blank hBlank hDoes => exact iff_of_true rfl hBlank
  | refused hWords hSome hRead hDoes => exact iff_of_false nofun (by simp [hWords])
  | told hRead hTells hDoes =>
      exact iff_of_false nofun (by simp [Console.read_not_blank hRead])
  | ordered hRead hOrders hSent hSends hAnswer hCameOut hDoes =>
      exact iff_of_false nofun (by simp [Console.read_not_blank hRead])
  | called hRead hCalls hAsks hPumped hDoes =>
      exact iff_of_false nofun (by simp [Console.read_not_blank hRead])

theorem served_not_quit (h : Served past s round) : Command.read round.line ≠ .ok .quit := by
  intro hQuit
  cases h with
  | blank hBlank hDoes =>
      rw [Console.read_empty_iff.mpr hBlank] at hQuit
      cases hQuit
  | refused hWords hSome hRead hDoes => cases hRead.symm.trans hQuit
  | told hRead hTells hDoes =>
      cases hRead.symm.trans hQuit
      cases hTells
  | ordered hRead hOrders hSent hSends hAnswer hCameOut hDoes =>
      cases hRead.symm.trans hQuit
      cases hOrders
  | called hRead hCalls hAsks hPumped hDoes => cases hRead.symm.trans hQuit

theorem served_not_wrong (h : Served past s round) {text : String}
    (hReply : round.reply = some (.ok text)) : ¬ Console.SoundsWrong text := by
  cases h with
  | blank hBlank hDoes => cases hReply
  | refused hWords hSome hRead hDoes => cases hReply
  | told hRead hTells hDoes =>
      cases hReply
      exact Console.tells_not_wrong hTells
  | @ordered _ _ _ _ _ _ outcome hRead hOrders hSent hSends hAnswer hCameOut hDoes =>
      cases outcome with
      | error fault => cases hReply
      | ok =>
          cases hReply
          exact Console.orders_not_wrong hOrders
  | called hRead hCalls hAsks hPumped hDoes =>
      cases hReply
      exact pumped_not_wrong hPumped

theorem served_wrong_iff (h : Served past s round) {reply : Except String String}
    (hReply : round.reply = some reply) :
    Console.SoundsWrong (replyText reply) ↔ exists text, reply = .error text := by
  cases reply with
  | ok text => exact iff_of_false (served_not_wrong h hReply) nofun
  | error text => exact iff_of_true (Console.soundsWrong_error text) ⟨text, rfl⟩

theorem served_happen (hMail : MailInOrder past s) (h : Happening)
    (hHonest : Honest (past ++ [⟨s, h⟩]) (s.happen h)) (hServed : Served past s round) :
    Served (past ++ [⟨s, h⟩]) (s.happen h) round := by
  cases hServed with
  | blank hBlank hDoes => exact .blank hBlank hDoes
  | refused hWords hSome hRead hDoes => exact .refused hWords hSome hRead hDoes
  | told hRead hTells hDoes => exact .told hRead hTells hDoes
  | ordered hRead hOrders hSent hSends hAnswer hCameOut hDoes =>
      have hStill := List.mem_append_left [⟨s, h⟩] hSent
      exact .ordered hRead hOrders hStill hSends hAnswer
        (hHonest _ _ _ hStill (order_of_effects hSends) (answer_stands hMail h hCameOut.answer))
        hDoes
  | called hRead hCalls hAsks hPumped hDoes => exact .called hRead hCalls hAsks hPumped hDoes

end Served

/-!
## The line under way
-/

/-- The console waits for the answer to the order that it has given. -/
def Ticketed (s : Monitor) (sent : Scene) (order : Console.Order) : Prop :=
  match (sent.before.send order).1 with
  | .ok ticket => s.consoleTicket = ticket
  | .error fault => outcomeOf s.results s.consoleTicket = some (.error fault)

/-- What the console is occupied with, and the turns that it has taken for it. -/
inductive Occupied (past : List Scene) (s : Monitor) :
    Worker Console.Session -> Option String -> List Scene -> Prop where
  | ready {rest : List String} : Occupied past s ⟨⟨rest, .ready⟩, none⟩ none []
  | ordering {rest : List String} {line success : String} {sent : Scene} {command : Command}
      {order : Console.Order} (hRead : Command.read line = .ok command)
      (hOrders : Orders command order success) (hSent : sent ∈ past)
      (hSends : sent.consoleEffects = [.order order]) (hTicketed : Ticketed s sent order) :
      Occupied past s ⟨⟨rest, .ordering success⟩, none⟩ (some line) [sent]
  | calling {rest : List String} {line : String} {asked : Scene} {action : Console.PumpAction}
      {call : Call} {due : Nat} (hRead : Command.read line = .ok (.pump action))
      (hCalls : Calls asked.before.snapshot action call)
      (hAsks : asked.consoleEffects = [.call call]) :
      Occupied past s ⟨⟨rest, .calling action⟩, some ⟨call, due⟩⟩ (some line) [asked]
  /-- The line is the first that quits; it is taken, and that is all. -/
  | finished {rest : List String} {line : String} {scene : Scene}
      (hRead : Command.read line = .ok .quit) (hDoes : scene.consoleEffects = []) :
      Occupied past s ⟨⟨rest, .finished⟩, none⟩ (some line) [scene]

theorem ticketed_answer {s : Monitor} {sent : Scene} {order : Console.Order}
    (h : Ticketed s sent order) :
    s.answer? sent order = outcomeOf s.results s.consoleTicket := by
  unfold Ticketed at h
  unfold answer?
  split at h
  · next ticket hTicket => rw [hTicket, h]
  · next fault hFault => rw [hFault, h]

theorem ticketed_stands {s next : Monitor} {sent : Scene} {order : Console.Order}
    (hAdds : AddsResults s next) (hTicket : next.consoleTicket = s.consoleTicket)
    (h : Ticketed s sent order) : Ticketed next sent order := by
  unfold Ticketed at h ⊢
  rw [hTicket]
  cases hSend : (sent.before.send order).1 with
  | ok ticket =>
      rw [hSend] at h
      exact h
  | error fault =>
      rw [hSend] at h
      exact outcome_stands hAdds h

/-!
## The conversation
-/

/-- How far the console has come with its lines since they were given to it. -/
structure Conversation (past since : List Scene) (given : List String) (s : Monitor)
    (rounds : List Round) (worker : Worker Console.Session) (line : Option String)
    (begun : List Scene) : Prop where
  console : s.console = some worker
  lines : given = rounds.map Round.line ++ (line.toList ++ worker.state.lines)
  turns : consoleTurns since = rounds.flatMap Round.turns ++ begun
  printed : s.printed.reverse = rounds.filterMap Round.printed?
  served : forall round, round ∈ rounds -> Served past s round
  occupied : Occupied past s worker line begun

section Acts

variable {s next : Monitor} {state : Console.Session}

theorem acts_silent (h : ConsoleActs s state [] next) :
    next.console = some ⟨state, none⟩ ∧ next.printed = s.printed := by
  cases h
  exact ⟨rfl, rfl⟩

theorem acts_print {text : String} (h : ConsoleActs s state [.print text] next) :
    next.console = some ⟨state, none⟩ ∧ next.printed = text :: s.printed ∧
      next.outside = s.outside := by
  cases h
  exact ⟨rfl, rfl, rfl⟩

theorem acts_call {call : Call} (h : ConsoleActs s state [.call call] next) :
    next.console = some ⟨state, some (s.placed call)⟩ ∧ next.printed = s.printed := by
  cases h
  exact ⟨rfl, rfl⟩

theorem acts_order {order : Console.Order} (h : ConsoleActs s state [.order order] next)
    (happening : Happening) :
    next.console = some ⟨state, none⟩ ∧ next.printed = s.printed ∧
      Ticketed next ⟨s, happening⟩ order := by
  cases h with
  | sent hSent =>
      refine ⟨rfl, ?_, ?_⟩
      · rcases (send_ok hSent).2 with ⟨_, _, _, _, _, rfl⟩ | ⟨_, _, _, _, _, rfl⟩
        · rfl
        · rfl
      · simp [Ticketed, hSent]
  | refused hRefused => exact ⟨rfl, rfl, by simp [Ticketed, hRefused, outcomeOf]⟩

end Acts

section Step

variable {past since : List Scene} {given : List String} {s next : Monitor}
  {rounds : List Round} {worker : Worker Console.Session} {line : Option String}
  {begun : List Scene}

theorem conversation_closes {scene : Scene} {event : Console.Event} {round : Round}
    {rest : List String} {later : List Scene}
    (h : Conversation past since given s rounds worker line begun)
    (hScene : scene.consoleEvent? = some event) (hNew : Served later next round)
    (hLine : line.toList ++ worker.state.lines = round.line :: rest)
    (hTurns : round.turns = begun ++ [scene])
    (hConsole : next.console = some ⟨⟨rest, .ready⟩, none⟩)
    (hPrinted : next.printed = round.printed?.toList ++ s.printed)
    (hOld : forall round, round ∈ rounds -> Served later next round) :
    Conversation later (since ++ [scene]) given next (rounds ++ [round])
      ⟨⟨rest, .ready⟩, none⟩ none [] where
  console := hConsole
  lines := by
    rw [h.lines, hLine]
    simp
  turns := by
    rw [consoleTurns_moves since hScene, h.turns]
    simp [hTurns]
  printed := by
    rw [hPrinted, List.reverse_append, h.printed, List.filterMap_append]
    cases hReply : round.printed? <;> simp [hReply]
  served := by
    intro other hOther
    rcases List.mem_append.mp hOther with hMem | hLast
    · exact hOld other hMem
    · rw [List.mem_singleton.mp hLast]
      exact hNew
  occupied := .ready

theorem conversation_opens {scene : Scene} {event : Console.Event} {rest : List String}
    {first : String} {later : List Scene} {opened : Worker Console.Session}
    (h : Conversation past since given s rounds ⟨⟨first :: rest, .ready⟩, none⟩ none [])
    (hScene : scene.consoleEvent? = some event) (hRest : opened.state.lines = rest)
    (hConsole : next.console = some opened) (hPrinted : next.printed = s.printed)
    (hOld : forall round, round ∈ rounds -> Served later next round)
    (hOccupied : Occupied later next opened (some first) [scene]) :
    Conversation later (since ++ [scene]) given next rounds opened (some first) [scene] where
  console := hConsole
  lines := by
    rw [h.lines, hRest]
    rfl
  turns := by rw [consoleTurns_moves since hScene, h.turns, List.append_nil]
  printed := by rw [hPrinted, h.printed]
  served := hOld
  occupied := hOccupied

theorem occupied_apart {h : Happening} (hAdds : AddsResults s next)
    (hTicket : next.consoleTicket = s.consoleTicket)
    (hOccupied : Occupied past s worker line begun) :
    Occupied (past ++ [⟨s, h⟩]) next worker line begun := by
  cases hOccupied with
  | ready => exact .ready
  | ordering hRead hOrders hSent hSends hTicketed =>
      exact .ordering hRead hOrders (List.mem_append_left _ hSent) hSends
        (ticketed_stands hAdds hTicket hTicketed)
  | calling hRead hCalls hAsks => exact .calling hRead hCalls hAsks
  | finished hRead hDoes => exact .finished hRead hDoes

theorem conversation_apart {h : Happening}
    (hTalk : Conversation past since given s rounds worker line begun)
    (hApart : ConsoleApart s h next) (hAdds : AddsResults s next)
    (hOld : forall round, round ∈ rounds -> Served (past ++ [⟨s, h⟩]) next round) :
    Conversation (past ++ [⟨s, h⟩]) (since ++ [⟨s, h⟩]) given next rounds worker line begun where
  console := hApart.console.trans hTalk.console
  lines := hTalk.lines
  turns := by rw [consoleTurns_apart since hApart.event, hTalk.turns]
  printed := by rw [hApart.printed, hTalk.printed]
  served := hOld
  occupied := occupied_apart hAdds hApart.consoleTicket hTalk.occupied

end Step

/-!
## The turns of the console
-/

/-- The conversation can be told in rounds. -/
def Conversed (past since : List Scene) (given : List String) (s : Monitor) : Prop :=
  exists rounds worker line begun, Conversation past since given s rounds worker line begun

section Turn

variable {past since : List Scene} {given rest : List String} {s served next : Monitor}
  {rounds : List Round} {event : Console.Event} {result : Console.Session × List Console.Effect}

theorem conversed_ready
    (hTalk : Conversation past since given s rounds ⟨⟨rest, .ready⟩, none⟩ none [])
    (hMoves : ConsoleMoves s ⟨⟨rest, .ready⟩, none⟩ event result served next)
    (hOld : forall round, round ∈ rounds ->
      Served (past ++ [⟨s, .turn .console⟩]) next round) :
    Conversed (past ++ [⟨s, .turn .console⟩]) (since ++ [⟨s, .turn .console⟩]) given next := by
  have hScene := hMoves.scene
  have hDoes := hMoves.effects
  have hActs := hMoves.acts
  rcases moves_ready hMoves with ⟨first, left, rfl, rfl, hTakes⟩
  cases hTakes with
  | blank hBlank =>
      rcases acts_silent hActs with ⟨hConsole, hPrinted⟩
      exact ⟨_, _, _, _, conversation_closes hTalk hScene (.blank hBlank hDoes)
        rfl rfl hConsole hPrinted hOld⟩
  | refused hWords hRead =>
      rcases acts_print hActs with ⟨hConsole, hPrinted, _⟩
      have hSome := Console.refusal_some hWords hRead
      exact ⟨_, _, _, _, conversation_closes hTalk hScene (.refused hWords hSome hRead hDoes)
        rfl rfl hConsole hPrinted hOld⟩
  | told hRead hTells =>
      rcases acts_print hActs with ⟨hConsole, hPrinted, _⟩
      exact ⟨_, _, _, _, conversation_closes hTalk hScene (.told hRead hTells hDoes)
        rfl rfl hConsole hPrinted hOld⟩
  | ordered hRead hOrders =>
      rcases acts_order hActs (.turn .console) with ⟨hConsole, hPrinted, hTicketed⟩
      exact ⟨_, _, _, _, conversation_opens hTalk hScene rfl hConsole hPrinted hOld
        (.ordering hRead hOrders (by simp) hDoes hTicketed)⟩
  | called hRead hCalls =>
      rcases acts_call hActs with ⟨hConsole, hPrinted⟩
      exact ⟨_, _, _, _, conversation_opens hTalk hScene rfl hConsole hPrinted hOld
        (.calling hRead hCalls hDoes)⟩
  | quit hRead =>
      rcases acts_silent hActs with ⟨hConsole, hPrinted⟩
      exact ⟨_, _, _, _, conversation_opens hTalk hScene rfl hConsole hPrinted hOld
        (.finished hRead hDoes)⟩

theorem conversed_ordering {line success : String} {sent : Scene} {command : Command}
    {order : Console.Order} (hMail : MailInOrder past s)
    (hTalk : Conversation past since given s rounds ⟨⟨rest, .ordering success⟩, none⟩
      (some line) [sent])
    (hRead : Command.read line = .ok command) (hOrders : Orders command order success)
    (hSent : sent ∈ past) (hSends : sent.consoleEffects = [.order order])
    (hTicketed : Ticketed s sent order)
    (hMoves : ConsoleMoves s ⟨⟨rest, .ordering success⟩, none⟩ event result served next)
    (hNext : s.happen (.turn .console) = next)
    (hHonest : Honest (past ++ [⟨s, .turn .console⟩]) next)
    (hOld : forall round, round ∈ rounds ->
      Served (past ++ [⟨s, .turn .console⟩]) next round) :
    Conversed (past ++ [⟨s, .turn .console⟩]) (since ++ [⟨s, .turn .console⟩]) given next := by
  rcases moves_ordering hMoves with ⟨outcome, hOutcome, rfl, rfl⟩
  have hAnswer := (ticketed_answer hTicketed).trans hOutcome
  have hStill := List.mem_append_left [⟨served, .turn .console⟩] hSent
  have hCameOut := hHonest sent order outcome hStill (order_of_effects hSends)
    (hNext ▸ answer_stands hMail (.turn .console) hAnswer)
  rcases acts_print hMoves.acts with ⟨hConsole, hPrinted, _⟩
  exact ⟨_, _, _, _, conversation_closes hTalk hMoves.scene
    (.ordered hRead hOrders hStill hSends hAnswer hCameOut hMoves.effects)
    rfl rfl hConsole hPrinted hOld⟩

theorem conversed_calling {line : String} {asked : Scene} {action : Console.PumpAction}
    {call : Call} {due : Nat}
    (hTalk : Conversation past since given s rounds
      ⟨⟨rest, .calling action⟩, some ⟨call, due⟩⟩ (some line) [asked])
    (hRead : Command.read line = .ok (.pump action))
    (hCalls : Calls asked.before.snapshot action call)
    (hAsks : asked.consoleEffects = [.call call])
    (hMoves : ConsoleMoves s ⟨⟨rest, .calling action⟩, some ⟨call, due⟩⟩ event result served next)
    (hNext : s.happen (.turn .console) = next)
    (hOld : forall round, round ∈ rounds ->
      Served (past ++ [⟨s, .turn .console⟩]) next round) :
    Conversed (past ++ [⟨s, .turn .console⟩]) (since ++ [⟨s, .turn .console⟩]) given next := by
  rcases moves_calling hCalls hMoves with ⟨reply, hPumped, hSame, rfl⟩
  rcases acts_print hMoves.acts with ⟨hConsole, hPrinted, hOutside⟩
  have hAfter : (Scene.mk s (.turn .console)).after.outside = served.outside := by
    show (s.happen (.turn .console)).outside = _
    rw [hNext, hOutside]
  rw [← hAfter] at hPumped
  rw [hSame] at hPrinted
  exact ⟨_, _, _, _, conversation_closes hTalk hMoves.scene
    (.called hRead hCalls hAsks hPumped hMoves.effects) rfl rfl hConsole hPrinted hOld⟩

end Turn

/-!
## Every course of events
-/

theorem conversed_happen {past since : List Scene} {given : List String} {s : Monitor}
    {h : Happening} (hMail : MailInOrder past s) (hKeeps : h.keepsConsole = true)
    (hHonest : Honest (past ++ [⟨s, h⟩]) (s.happen h)) (hTalk : Conversed past since given s) :
    Conversed (past ++ [⟨s, h⟩]) (since ++ [⟨s, h⟩]) given (s.happen h) := by
  rcases hTalk with ⟨rounds, worker, line, begun, hTalk⟩
  have hOld : forall round, round ∈ rounds -> Served (past ++ [⟨s, h⟩]) (s.happen h) round :=
    fun round hMem => served_happen hMail h hHonest (hTalk.served round hMem)
  have hAdds := addsResults_happen hMail.order hMail.idle hMail.rendezvous h
  have hHappens := console_happens (s := s) hKeeps
  generalize hNext : s.happen h = next at hHonest hOld hAdds hHappens
  cases hHappens with
  | apart hApart => exact ⟨_, _, _, _, conversation_apart hTalk hApart hAdds hOld⟩
  | @moves console event result served next hMoves =>
      have hSame : console = worker :=
        Option.some.inj (hMoves.console.symm.trans hTalk.console)
      subst hSame
      have hOccupied := hTalk.occupied
      cases hOccupied with
      | ready => exact conversed_ready hTalk hMoves hOld
      | ordering hRead hOrders hSent hSends hTicketed =>
          exact conversed_ordering hMail hTalk hRead hOrders hSent hSends hTicketed hMoves hNext
            hHonest hOld
      | calling hRead hCalls hAsks =>
          exact conversed_calling hTalk hRead hCalls hAsks hMoves hNext hOld
      | finished hRead hDoes => exact absurd hMoves not_moves_finished

theorem conversed_after (config : Config) (now : Nat) (outside : Outside)
    (sink : Option Notice.Sink) (hs : List Happening) (given : List String)
    {later : List Happening} (hKeeps : forall h, h ∈ later -> h.keepsConsole = true) :
    let s := (assemble config now outside sink).after hs
    Conversed ((assemble config now outside sink).scenes (hs ++ .converse given :: later))
      ((s.happen (.converse given)).scenes later) given
      ((s.happen (.converse given)).after later) := by
  intro s
  have hSplit (later : List Happening) :
      (assemble config now outside sink).after (hs ++ .converse given :: later) =
        (s.happen (.converse given)).after later := by
    rw [after_append, after_cons]
  induction later using List.reverseRecOn with
  | nil => exact ⟨[], ⟨.start given, none⟩, none, [], rfl, rfl, rfl, rfl, nofun, .ready⟩
  | append_singleton later h ih =>
      have hEarlier := ih fun other hOther => hKeeps other (List.mem_append_left _ hOther)
      have hMail := mailInOrder_after config now outside sink (hs ++ .converse given :: later)
      have hHonest := honest_after config now outside sink (hs ++ .converse given :: later ++ [h])
      rw [scenes_concat, after_concat, hSplit] at hHonest
      rw [hSplit] at hMail
      rw [← List.cons_append, ← List.append_assoc, scenes_concat, scenes_concat, after_concat,
        hSplit]
      exact conversed_happen hMail (hKeeps h (by simp)) hHonest hEarlier

end Monitor
end TubMonitor
