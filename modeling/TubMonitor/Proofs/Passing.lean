import TubMonitor.Proofs.Happenings
import TubMonitor.Proofs.Replies

/-!
# The clock as a course of events

What the clock does by itself, from one moment to the next, is a course of events in
which nothing but turns and the passing of time occurs.  Whatever holds after every
course therefore holds when the clock has run.
-/

namespace TubMonitor
namespace Monitor

/-- Neither anyone outside nor the owner of the monitor has a hand in it. -/
def Happening.isPassing : Happening -> Bool
  | .turn _ => true
  | .wait _ => true
  | _ => false

/-- One state comes from the other by turns and the passing of time. -/
def Passes (s next : Monitor) : Prop :=
  exists hs, (forall h, h ∈ hs -> h.isPassing = true) ∧ next = s.after hs

theorem passes_refl (s : Monitor) : Passes s s :=
  ⟨[], by simp, rfl⟩

theorem passes_trans {s middle next : Monitor} (hFirst : Passes s middle)
    (hSecond : Passes middle next) : Passes s next := by
  rcases hFirst with ⟨first, hFirstPasses, rfl⟩
  rcases hSecond with ⟨second, hSecondPasses, rfl⟩
  refine ⟨first ++ second, ?_, (after_append s first second).symm⟩
  intro h hMem
  rcases List.mem_append.mp hMem with hIn | hIn
  · exact hFirstPasses h hIn
  · exact hSecondPasses h hIn

theorem passes_happen (s : Monitor) {h : Happening} (hPassing : h.isPassing = true) :
    Passes s (s.happen h) := by
  refine ⟨[h], ?_, rfl⟩
  intro other hOther
  rw [List.mem_singleton.mp hOther]
  exact hPassing

theorem passes_turn {s next : Monitor} {turn : Turn} (h : s.turn? turn = some next) :
    Passes s next := by
  have hNext : s.happen (.turn turn) = next := by
    rw [happen, h, Option.getD_some]
  exact hNext ▸ passes_happen s rfl

theorem passes_wait {s : Monitor} {now : Nat} (h : s.now ≤ now) :
    Passes s { s with now := now } := by
  have hNext : s.happen (.wait now) = { s with now := now } := by
    rw [happen, Nat.max_eq_right h]
  exact hNext ▸ passes_happen s rfl

/-!
## One instant
-/

theorem move?_turn {s next : Monitor} (h : s.move? = some next) :
    exists turn, s.turn? turn = some next := by
  rcases List.exists_of_findSome?_eq_some h with ⟨turn, _, hTurn⟩
  exact ⟨turn, hTurn⟩

theorem mem_all (turn : Turn) : turn ∈ Turn.all := by
  cases turn <;> decide

theorem move?_eq_none {s : Monitor} : s.move? = none ↔ forall turn, s.turn? turn = none := by
  rw [move?, List.findSome?_eq_none_iff]
  exact ⟨fun h turn => h turn (mem_all turn), fun h turn _ => h turn⟩

def LoopName.turn : LoopName -> Turn
  | .ozone => .ozone
  | .leak => .leak
  | .temperature => .temperature
  | .notification => .notices

theorem mem_loopNames (name : LoopName) : name ∈ loopNames := by
  cases name <;> decide

theorem move?_cases {s next : Monitor} (h : s.move? = some next) :
    (exists name : LoopName, s.turn? name.turn = some next) ∨
      ((forall name : LoopName, s.turn? name.turn = none) ∧
        exists turn, s.turn? turn = some next) := by
  have hSplit : Turn.all =
      loopNames.map LoopName.turn ++ [.ozoneLine, .targetLine, .console] := rfl
  rw [move?, hSplit, List.findSome?_append, Option.or_eq_some_iff] at h
  rcases h with hLoop | ⟨hNone, hRest⟩
  · rcases List.exists_of_findSome?_eq_some hLoop with ⟨turn, hMem, hTurn⟩
    rcases List.mem_map.mp hMem with ⟨name, _, rfl⟩
    exact Or.inl ⟨name, hTurn⟩
  · right
    constructor
    · intro name
      have hMem := List.mem_map_of_mem (f := LoopName.turn) (mem_loopNames name)
      exact List.findSome?_eq_none_iff.mp hNone _ hMem
    · rcases List.exists_of_findSome?_eq_some hRest with ⟨turn, _, hTurn⟩
      exact ⟨turn, hTurn⟩

theorem settleWithin_passes (turns : Nat) (s : Monitor) : Passes s (settleWithin turns s) := by
  induction turns generalizing s with
  | zero => exact passes_refl s
  | succ turns ih =>
      rw [settleWithin]
      split
      · next next hMove =>
          rcases move?_turn hMove with ⟨turn, hTurn⟩
          exact passes_trans (passes_turn hTurn) (ih next)
      · exact passes_refl s

/-!
## What no turn changes
-/

structure Steady (s next : Monitor) : Prop where
  now : next.now = s.now
  conditions : next.outside.conditions = s.outside.conditions
  sink : next.sink = s.sink
  isStarted : next.isStarted = s.isStarted
  isCancelled : next.isCancelled = s.isCancelled

theorem steady_trans {s middle next : Monitor} (hFirst : Steady s middle)
    (hSecond : Steady middle next) : Steady s next where
  now := hSecond.now.trans hFirst.now
  conditions := hSecond.conditions.trans hFirst.conditions
  sink := hSecond.sink.trans hFirst.sink
  isStarted := hSecond.isStarted.trans hFirst.isStarted
  isCancelled := hSecond.isCancelled.trans hFirst.isCancelled

theorem consoleServes_steady {s served : Monitor} {console : Worker Console.Session}
    {event : Console.Event} (h : ConsoleServes s console event served) : Steady s served := by
  cases h with
  | reply hPending hDue => exact ⟨rfl, answer_conditions .., rfl, rfl, rfl⟩
  | next hFree hReady hLines => exact ⟨rfl, rfl, rfl, rfl, rfl⟩
  | ordered hFree hOrdering hResult => exact ⟨rfl, rfl, rfl, rfl, rfl⟩

theorem consoleActs_steady {s next : Monitor} {state : Console.Session}
    {effects : List Console.Effect} (h : ConsoleActs s state effects next) : Steady s next := by
  cases h with
  | sent hSent =>
      rcases (send_ok hSent).2 with ⟨_, _, _, _, _, rfl⟩ | ⟨_, _, _, _, _, rfl⟩
      · exact ⟨rfl, rfl, rfl, rfl, rfl⟩
      · exact ⟨rfl, rfl, rfl, rfl, rfl⟩
  | _ => exact ⟨rfl, rfl, rfl, rfl, rfl⟩

theorem turn_steady {s next : Monitor} {turn : Turn} (h : s.turn? turn = some next) :
    Steady s next := by
  cases turn with
  | ozone =>
      rcases ozoneTurn_cases h with ⟨event, served, hEvent, rfl⟩
      cases ozoneEvent_serves hEvent
      all_goals constructor <;> simp
  | leak =>
      rcases leakTurn_cases h with ⟨event, served, hEvent, rfl⟩
      cases leakEvent_serves hEvent
      all_goals constructor <;> simp
  | temperature =>
      rcases temperatureTurn_cases h with ⟨event, served, hEvent, rfl⟩
      cases temperatureEvent_serves hEvent
      all_goals constructor <;> simp
  | notices =>
      rcases noticesTurn_cases h with ⟨_, _, hActs⟩
      cases hActs <;> exact ⟨rfl, rfl, rfl, rfl, rfl⟩
  | ozoneLine =>
      rcases ozoneLineTurn_cases h with ⟨box, _, rfl⟩
      exact ⟨rfl, rfl, rfl, rfl, rfl⟩
  | targetLine =>
      rcases targetLineTurn_cases h with ⟨box, _, rfl⟩
      exact ⟨rfl, rfl, rfl, rfl, rfl⟩
  | console =>
      rcases consoleTurn_cases h with ⟨_, _, _, _, _, _, hEvent, _, hActs⟩
      exact steady_trans (consoleServes_steady (consoleEvent_serves hEvent))
        (consoleActs_steady hActs)

theorem settleWithin_steady (turns : Nat) (s : Monitor) : Steady s (settleWithin turns s) := by
  induction turns generalizing s with
  | zero => exact ⟨rfl, rfl, rfl, rfl, rfl⟩
  | succ turns ih =>
      rw [settleWithin]
      split
      · next next hMove =>
          rcases move?_turn hMove with ⟨turn, hTurn⟩
          exact steady_trans (turn_steady hTurn) (ih next)
      · exact ⟨rfl, rfl, rfl, rfl, rfl⟩

/-!
## From moment to moment
-/

theorem settle_passes (s : Monitor) : Passes s s.settle :=
  settleWithin_passes s.patience s

theorem settle_quiet {s : Monitor} (hQuiet : s.isQuiet = true) : s.settle = s := by
  have hNone : s.move? = none := by simpa [isQuiet] using hQuiet
  unfold settle
  cases s.patience with
  | zero => rfl
  | succ turns => rw [settleWithin, hNone]

theorem settle_steady (s : Monitor) : Steady s s.settle :=
  settleWithin_steady s.patience s

theorem run_passes (stop : Monitor -> Bool) (target now : Nat) (s : Monitor)
    (hNow : s.now ≤ now) : Passes s (s.run stop target now) := by
  have hSettled (now : Nat) (s : Monitor) (hNow : s.now ≤ now) :
      Passes s ({ s with now := now } : Monitor).settle :=
    passes_trans (passes_wait hNow) (settle_passes _)
  induction now, s using run.induct stop target with
  | case1 now s settled hStop =>
      rw [run, if_pos hStop]
      exact hSettled now s hNow
  | case2 now s settled hGoOn hNothing =>
      rw [run, if_neg hGoOn, hNothing]
      exact hSettled now s hNow
  | case3 now s settled hGoOn due hDue hLater ih =>
      rw [run, if_neg hGoOn, hDue]
      dsimp only
      rw [if_pos hLater]
      have hReached : settled.now = now := (settle_steady _).now
      exact passes_trans (hSettled now s hNow) (ih (hReached ▸ Nat.le_of_lt hLater.1))
  | case4 now s settled hGoOn due hDue hTooLate =>
      rw [run, if_neg hGoOn, hDue]
      dsimp only
      rw [if_neg hTooLate]
      exact hSettled now s hNow

end Monitor
end TubMonitor
