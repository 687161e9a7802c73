import Mathlib.Data.List.Induction
import TubMonitor.Records
import TubMonitor.Proofs.Time.Order
import TubMonitor.Sensors.Basic

/-!
# What readings amount to

A list of readings is a list of levels, a reading that fails standing for the one before
it, and the first for dry.  The level rises and falls in turn.  The records that belong to
a list of such edges are one for each rising edge, cleared at the falling edge after it.
-/

namespace TubMonitor
namespace Leak

open Time (Instant instantOf)

/-!
## Levels and edges
-/

def levels (before : Bool) : List (Nat × Except Fault Bool) -> List (Nat × Bool)
  | [] => []
  | (moment, outcome) :: rest =>
      let level := outcome.toOption.getD before
      (moment, level) :: levels level rest

def lastLevel (before : Bool) (v : List (Nat × Bool)) : Bool :=
  (v.getLast?.map Prod.snd).getD before

/-- Where a level is not the one before it. -/
def edges (before : Bool) : List (Nat × Bool) -> List (Nat × Bool)
  | [] => []
  | (moment, level) :: rest =>
      if level = before then edges level rest else (moment, level) :: edges level rest

def turnings (up : Bool) (edges : List (Nat × Bool)) : List Nat :=
  (edges.filter fun edge => edge.2 == up).map Prod.fst

@[simp] theorem lastLevel_nil (before : Bool) : lastLevel before [] = before := rfl

@[simp] theorem lastLevel_concat (before : Bool) (v : List (Nat × Bool)) (last : Nat × Bool) :
    lastLevel before (v ++ [last]) = last.2 := by
  simp [lastLevel]

theorem lastLevel_cons (before : Bool) (first : Nat × Bool) (rest : List (Nat × Bool)) :
    lastLevel before (first :: rest) = lastLevel first.2 rest := by
  cases rest using List.reverseRecOn with
  | nil => rfl
  | append_singleton rest last => rw [← List.cons_append, lastLevel_concat, lastLevel_concat]

theorem levels_concat (before : Bool) (readings : List (Nat × Except Fault Bool))
    (last : Nat × Except Fault Bool) :
    levels before (readings ++ [last]) =
      levels before readings ++
        [(last.1, last.2.toOption.getD (lastLevel before (levels before readings)))] := by
  induction readings generalizing before with
  | nil => rfl
  | cons first rest ih => simp [levels, lastLevel_cons, ih]

theorem edges_concat (before : Bool) (v : List (Nat × Bool)) (last : Nat × Bool) :
    edges before (v ++ [last]) =
      edges before v ++ if last.2 = lastLevel before v then [] else [last] := by
  induction v generalizing before with
  | nil => rfl
  | cons first rest ih =>
      simp only [List.cons_append, edges, lastLevel_cons, ih]
      split <;> simp

@[simp] theorem turnings_nil (up : Bool) : turnings up [] = [] := rfl

theorem turnings_concat (up : Bool) (edges : List (Nat × Bool)) (edge : Nat × Bool) :
    turnings up (edges ++ [edge]) =
      turnings up edges ++ if edge.2 = up then [edge.1] else [] := by
  simp only [turnings, List.filter_append, List.map_append]
  by_cases hUp : edge.2 = up
  · simp [hUp]
  · simp [hUp]

/-!
## The records of edges
-/

/--
The records of a list of edges so far, with the level now.  Whatever is written for an
edge is written after its reading and before the next one.
-/
inductive Recorded : Nat -> Bool -> List (Nat × Bool) -> List Record -> Prop where
  | dry (now : Nat) : Recorded now false [] []
  | opened {now moment : Nat} {edges : List (Nat × Bool)} {records : List Record}
      {record : Record} (hBefore : Recorded moment false edges records)
      (hOpen : record.cleared = none) (hFrom : instantOf moment ≤ record.detected)
      (hTo : record.detected ≤ instantOf now) :
      Recorded now true (edges ++ [(moment, true)]) (records ++ [record])
  | cleared {now moment : Nat} {edges : List (Nat × Bool)} {records : List Record}
      {record : Record} {stop : Instant}
      (hBefore : Recorded moment true edges (records ++ [record]))
      (hFrom : instantOf moment ≤ stop) (hTo : stop ≤ instantOf now) :
      Recorded now false (edges ++ [(moment, false)])
        (records ++ [{ record with cleared := some stop }])

theorem recorded_later {now later : Nat} {wet : Bool} {edges : List (Nat × Bool)}
    {records : List Record} (h : Recorded now wet edges records) (hLater : now ≤ later) :
    Recorded later wet edges records := by
  have hInstant := Time.instantOf_le hLater
  cases h with
  | dry => exact .dry later
  | opened hBefore hOpen hFrom hTo => exact .opened hBefore hOpen hFrom (hTo.trans hInstant)
  | cleared hBefore hFrom hTo => exact .cleared hBefore hFrom (hTo.trans hInstant)

theorem recorded_wet {now : Nat} {edges : List (Nat × Bool)} {records : List Record}
    (h : Recorded now true edges records) :
    exists earlier record, records = earlier ++ [record] ∧ record.cleared = none := by
  cases h with
  | @opened _ _ _ earlier record hBefore hOpen hFrom hTo => exact ⟨earlier, record, rfl, hOpen⟩

/--
The record of a leak that began at a moment, given when it ended and when the next one
began, as far as that has happened.
-/
structure Spans (rise : Nat) (fall next : Option Nat) (record : Record) : Prop where
  detected : instantOf rise ≤ record.detected
  going : fall = none -> record.cleared = none
  closed : forall moment, fall = some moment -> record.detected ≤ instantOf moment ∧
    exists stop, record.cleared = some stop ∧ instantOf moment ≤ stop ∧ record.detected ≤ stop ∧
      forall later, next = some later -> stop ≤ instantOf later

/-- What the records of edges come to, counted and one by one. -/
structure Accounts (now : Nat) (wet : Bool) (edges : List (Nat × Bool))
    (records : List Record) : Prop where
  rises : (turnings true edges).length = records.length
  falls : (turnings false edges).length + wet.toNat = records.length
  spans : forall k record, records[k]? = some record ->
    exists rise, (turnings true edges)[k]? = some rise ∧
      Spans rise (turnings false edges)[k]? (turnings true edges)[k + 1]? record
  past : forall record, record ∈ records -> record.detected ≤ instantOf now ∧
    forall stop, record.cleared = some stop -> stop ≤ instantOf now

theorem recorded_accounts {now : Nat} {wet : Bool} {edges : List (Nat × Bool)}
    {records : List Record} (h : Recorded now wet edges records) :
    Accounts now wet edges records := by
  induction h with
  | dry now =>
      exact ⟨rfl, rfl, fun k record h => by simp at h, fun record h => by simp at h⟩
  | @opened now moment edges records record hBefore hOpen hFrom hTo ih =>
      have hRises : turnings true (edges ++ [(moment, true)]) =
          turnings true edges ++ [moment] := turnings_concat ..
      have hFalls : turnings false (edges ++ [(moment, true)]) = turnings false edges := by
        simp [turnings_concat]
      have hCount := ih.rises
      have hEven : (turnings false edges).length = records.length := ih.falls
      refine ⟨by simp [hRises, hCount], by simp [hFalls, hEven], ?_, ?_⟩
      · intro k other hOther
        rw [hRises, hFalls]
        by_cases hOld : k < records.length
        · rw [List.getElem?_append_left hOld] at hOther
          rcases ih.spans k other hOther with ⟨rise, hRise, hSpans⟩
          refine ⟨rise, by rw [List.getElem?_append_left (hCount ▸ hOld), hRise], ?_⟩
          refine ⟨hSpans.detected, hSpans.going, ?_⟩
          intro fall hFall
          rcases hSpans.closed fall hFall with ⟨hBegun, stop, hStop, hAfter, hLast, hNext⟩
          refine ⟨hBegun, stop, hStop, hAfter, hLast, ?_⟩
          intro later hLater
          -- the next leak is the one that has just begun, or began before
          by_cases hInner : k + 1 < (turnings true edges).length
          · rw [List.getElem?_append_left hInner] at hLater
            exact hNext later hLater
          · rw [List.getElem?_append_right (by omega)] at hLater
            have hSame : later = moment := by
              rw [List.getElem?_singleton] at hLater
              split at hLater
              · exact (Option.some.inj hLater).symm
              · cases hLater
            rw [hSame]
            exact (ih.past other (List.mem_of_getElem? hOther)).2 stop hStop
        · rw [List.getElem?_append_right (by omega), List.getElem?_singleton] at hOther
          split at hOther
          · next hLast =>
              cases hOther
              have hHere : k = (turnings true edges).length := by omega
              refine ⟨moment, by simp [hHere], hFrom, fun _ => hOpen, ?_⟩
              intro fall hFall
              rw [List.getElem?_eq_none (by omega)] at hFall
              cases hFall
          · cases hOther
      · intro other hMem
        have hSince : instantOf moment ≤ instantOf now := hFrom.trans hTo
        rcases List.mem_append.mp hMem with hOld | hNew
        · have hPast := ih.past other hOld
          exact ⟨hPast.1.trans hSince, fun stop hStop => (hPast.2 stop hStop).trans hSince⟩
        · rw [List.mem_singleton.mp hNew]
          refine ⟨hTo, fun stop hStop => ?_⟩
          rw [hOpen] at hStop
          cases hStop
  | @cleared now moment edges records record stop hBefore hFrom hTo ih =>
      have hRises : turnings true (edges ++ [(moment, false)]) = turnings true edges := by
        simp [turnings_concat]
      have hFalls : turnings false (edges ++ [(moment, false)]) =
          turnings false edges ++ [moment] := turnings_concat ..
      have hCount : (turnings true edges).length = records.length + 1 := by
        simpa using ih.rises
      have hOdd : (turnings false edges).length = records.length := by
        simpa using ih.falls
      have hSince : instantOf moment ≤ instantOf now := hFrom.trans hTo
      have hPast := ih.past record (by simp)
      refine ⟨by simp [hRises, hCount], by simp [hFalls, hOdd], ?_, ?_⟩
      · intro k other hOther
        rw [hRises, hFalls]
        by_cases hOld : k < records.length
        · rw [List.getElem?_append_left hOld] at hOther
          rw [List.getElem?_append_left (hOdd ▸ hOld)]
          exact ih.spans k other (by rw [List.getElem?_append_left hOld, hOther])
        · rw [List.getElem?_append_right (by omega), List.getElem?_singleton] at hOther
          split at hOther
          · next hLast =>
              cases hOther
              have hHere : k = records.length := by omega
              subst hHere
              rcases ih.spans records.length record (by simp) with ⟨rise, hRise, hSpans⟩
              refine ⟨rise, hRise, hSpans.detected, ?_, ?_⟩
              · intro hNone
                rw [← hOdd, List.getElem?_concat_length] at hNone
                cases hNone
              · intro fall hFall
                rw [← hOdd, List.getElem?_concat_length] at hFall
                cases hFall
                refine ⟨hPast.1, stop, rfl, hFrom, hPast.1.trans hFrom, ?_⟩
                intro later hLater
                rw [List.getElem?_eq_none (by omega)] at hLater
                cases hLater
          · cases hOther
      · intro other hMem
        rcases List.mem_append.mp hMem with hOld | hNew
        · have hOther := ih.past other (List.mem_append_left _ hOld)
          exact ⟨hOther.1.trans hSince, fun s hStop => (hOther.2 s hStop).trans hSince⟩
        · rw [List.mem_singleton.mp hNew]
          refine ⟨hPast.1.trans hSince, fun s hStop => ?_⟩
          cases hStop
          exact hTo

/-- A record is open as long as its leak goes on, which can be so of the last one only. -/
theorem accounts_open {now : Nat} {wet : Bool} {edges : List (Nat × Bool)}
    {records : List Record} (h : Accounts now wet edges records) (k : Nat) (record : Record)
    (hRecord : records[k]? = some record) :
    record.isOpen = true ↔ k + 1 = records.length ∧ wet = true := by
  have hBound := (List.getElem?_eq_some_iff.mp hRecord).1
  have hFalls := h.falls
  rcases h.spans k record hRecord with ⟨rise, _, hSpans⟩
  cases hFall : (turnings false edges)[k]? with
  | none =>
      have hLate := List.getElem?_eq_none_iff.mp hFall
      have hLast : k + 1 = records.length ∧ wet = true := by
        cases wet <;> simp only [Bool.toNat_true, Bool.toNat_false, and_true] at hFalls ⊢ <;> omega
      exact iff_of_true (by simp [Record.isOpen, hSpans.going hFall]) hLast
  | some fall =>
      have hEarly := (List.getElem?_eq_some_iff.mp hFall).1
      rcases hSpans.closed fall hFall with ⟨_, stop, hStop, _⟩
      refine iff_of_false (by simp [Record.isOpen, hStop]) ?_
      rintro ⟨hLast, hWet⟩
      rw [hWet, Bool.toNat_true] at hFalls
      omega

/-!
## What is told of them
-/

/-- The level, whether a new leak is still to be told of, and what has been told. -/
structure Told where
  level : Bool
  isNew : Bool
  texts : List String
deriving DecidableEq

def pumpTexts : Except Fault Unit -> List String
  | .ok () => []
  | .error fault => ["Leak present and pump could not be turned off: " ++ fault.message]

/-- A new leak is told of after the pump has been switched off, or has failed to be. -/
def Told.hear (t : Told) : Sensors.Answer -> Told
  | .level outcome =>
      let level := outcome.toOption.getD t.level
      { level
        isNew := level && !t.level
        texts := if t.level && !level then t.texts ++ ["Leak cleared."] else t.texts }
  | .switched outcome =>
      { t with
        isNew := false
        texts :=
          t.texts ++ pumpTexts outcome ++
            if t.isNew then ["Leak detected! Pump turned off."] else [] }
  | .temperatures _ => t

def told (answers : List Sensors.Answer) : Told :=
  answers.foldl Told.hear ⟨false, false, []⟩

theorem told_concat (answers : List Sensors.Answer) (last : Sensors.Answer) :
    told (answers ++ [last]) = (told answers).hear last := by
  simp [told]

/-!
## Histories
-/

/-- What a loop has been told by its sensor and has tried to say, summed up. -/
structure History where
  level : Bool
  edges : List (Nat × Bool)
  told : Told
  notes : List String

namespace History

def sense (h : History) (moment : Nat) : Option Sensors.Answer -> History
  | some (.level outcome) =>
      let level := outcome.toOption.getD h.level
      { h with
        level
        edges := h.edges ++ if level = h.level then [] else [(moment, level)]
        told := h.told.hear (.level outcome) }
  | some answer => { h with told := h.told.hear answer }
  | none => h

def say (h : History) (texts : List String) : History :=
  { h with notes := h.notes ++ texts }

@[simp] theorem sense_none (h : History) (moment : Nat) : h.sense moment none = h := rfl

@[simp] theorem say_nil (h : History) : h.say [] = h := by
  simp [say]

end History

end Leak
end TubMonitor
