import TubMonitor.Proofs.Json.Objects
import TubMonitor.Settings.Saved

/-!
# The saved configuration as a document

A configuration has a document unless its path is no text.  If its numbers fit their fields it is
read back from the document as it was written, and what is read from any document fits.
-/

namespace TubMonitor
namespace Settings
namespace Saved

/-- Intervals have 64 bits and pins 32. -/
structure Fits (c : Saved) : Prop where
  temperatureInterval : forall n, n ∈ c.temperatureInterval -> n < Nat.pow 2 64
  leakInterval : forall n, n ∈ c.leakInterval -> n < Nat.pow 2 64
  leakPin : forall n, n ∈ c.leakPin -> n < Nat.pow 2 32
  pumpPin : forall n, n ∈ c.pumpPin -> n < Nat.pow 2 32
  ozonePin : forall n, n ∈ c.ozonePin -> n < Nat.pow 2 32

theorem fits_empty : Fits {} := by
  constructor <;> intro n hNone <;> cases hNone

/-- The path is a text, if there is one. -/
def Textual (c : Saved) : Prop :=
  exists text : Option String, c.databasePath = text.map OsText.ofString

theorem textual_empty : Textual {} :=
  ⟨none, rfl⟩

theorem texts_eq_some_iff {path : Option OsText} {text : Option String} :
    path.mapM OsText.text? = some text ↔ path = text.map OsText.ofString := by
  cases path with
  | none => cases text <;> simp
  | some p =>
      have hMap : (some p).mapM OsText.text? = p.text?.map some := by
        cases h : p.text? <;> simp [h]
      rw [hMap]
      cases text with
      | none => simp
      | some text => simp [OsText.text?_eq_some_iff]

/-!
## Writing
-/

def textSlot (name : String) (value : Option String) : String × Option Json :=
  (name, value.map Json.ofString)

def countSlot (name : String) (value : Option Nat) : String × Option Json :=
  (name, value.map fun (n : Nat) => Json.integer n)

def slots (c : Saved) (path : Option String) : List (String × Option Json) :=
  [ textSlot "sensors" c.sensors
  , textSlot "store" c.store
  , textSlot "db_path" path
  , countSlot "temperature_interval" c.temperatureInterval
  , countSlot "leak_interval" c.leakInterval
  , textSlot "notifier" c.notifier
  , textSlot "room_sensor" c.roomSensor
  , textSlot "water_sensor" c.waterSensor
  , countSlot "leak_pin" c.leakPin
  , countSlot "pump_pin" c.pumpPin
  , countSlot "ozone_pin" c.ozonePin ]

theorem textMember_eq (name : String) (value : Option String) :
    textMember name value =
      (textSlot name value).2.map fun held => ((textSlot name value).1, held) := by
  cases value <;> rfl

theorem countMember_eq (name : String) (value : Option Nat) :
    countMember name value =
      (countSlot name value).2.map fun held => ((countSlot name value).1, held) := by
  cases value <;> rfl

theorem toJson?_eq {c : Saved} {path : Option String}
    (h : c.databasePath = path.map OsText.ofString) :
    c.toJson? = some (Json.object (Json.members (c.slots path))) := by
  rw [toJson?, texts_eq_some_iff.mpr h]
  simp only [Option.bind_eq_bind, Option.bind_some, textMember_eq, countMember_eq, Json.members,
    slots, List.filterMap_cons, List.filterMap_nil, id]

/-- There is a document for each path that is a text, and for no other. -/
theorem textual_iff {c : Saved} : c.Textual ↔ exists text, c.text? = some text := by
  constructor
  · rintro ⟨path, hPath⟩
    exact ⟨_, by rw [text?, toJson?_eq hPath]; rfl⟩
  · rintro ⟨text, hText⟩
    rcases Option.map_eq_some_iff.mp hText with ⟨j, hJson, _⟩
    rcases Option.bind_eq_some_iff.mp hJson with ⟨path, hPath, _⟩
    exact ⟨path, texts_eq_some_iff.mp hPath⟩

theorem simple_textSlot {name : String} {value : Option String} {held : Json}
    (h : (textSlot name value).2 = some held) : Json.Simple held := by
  rcases Option.map_eq_some_iff.mp h with ⟨s, _, rfl⟩
  exact Json.simple_text s

theorem simple_countSlot {name : String} {value : Option Nat} {held : Json}
    (hFits : forall n, n ∈ value -> n < Nat.pow 2 64)
    (h : (countSlot name value).2 = some held) : Json.Simple held := by
  rcases Option.map_eq_some_iff.mp h with ⟨n, hMem, rfl⟩
  have hLess := hFits n hMem
  apply Json.simple_count
  show n ≤ Nat.pow 2 64 - 1
  omega

theorem pow_lt : Nat.pow 2 32 < Nat.pow 2 64 := by
  decide

theorem simple_slots {c : Saved} {path : Option String} (h : c.Fits)
    {slot : String × Option Json} {held : Json} (hMem : slot ∈ c.slots path) (hHeld : slot.2 = some held) : Json.Simple held := by
  have hPin {value : Option Nat} (hValue : forall n, n ∈ value -> n < Nat.pow 2 32) :
      forall n, n ∈ value -> n < Nat.pow 2 64 :=
    fun n hIn => Nat.lt_trans (hValue n hIn) pow_lt
  simp only [slots, List.mem_cons, List.not_mem_nil, or_false] at hMem
  rcases hMem with rfl | rfl | rfl | rfl | rfl | rfl | rfl | rfl | rfl | rfl | rfl
  · exact simple_textSlot hHeld
  · exact simple_textSlot hHeld
  · exact simple_textSlot hHeld
  · exact simple_countSlot h.temperatureInterval hHeld
  · exact simple_countSlot h.leakInterval hHeld
  · exact simple_textSlot hHeld
  · exact simple_textSlot hHeld
  · exact simple_textSlot hHeld
  · exact simple_countSlot (hPin h.leakPin) hHeld
  · exact simple_countSlot (hPin h.pumpPin) hHeld
  · exact simple_countSlot (hPin h.ozonePin) hHeld

/-!
## Reading back
-/

theorem allowed?_textSlot (name : String) (value : Option String) :
    Json.allowed? Json.string? (textSlot name value).2 = some value := by
  cases value <;> rfl

theorem allowed?_countSlot {name : String} {value : Option Nat} {high : Nat}
    (h : forall n, n ∈ value -> n ≤ high) :
    Json.allowed? (Json.natural? high) (countSlot name value).2 = some value := by
  cases value with
  | none => rfl
  | some n =>
      have hHigh : (n : Int) ≤ high := Int.ofNat_le.mpr (h n rfl)
      show (Json.natural? high (Json.integer n)).map some = _
      simp [Json.natural?, hHigh]

theorem allowed?_interval {name : String} {value : Option Nat}
    (h : forall n, n ∈ value -> n < Nat.pow 2 64) :
    Json.allowed? interval? (countSlot name value).2 = some value :=
  allowed?_countSlot fun n hMem => Nat.le_sub_one_of_lt (h n hMem)

theorem allowed?_pin {name : String} {value : Option Nat}
    (h : forall n, n ∈ value -> n < Nat.pow 2 32) :
    Json.allowed? pin? (countSlot name value).2 = some value :=
  allowed?_countSlot fun n hMem => Nat.le_sub_one_of_lt (h n hMem)

theorem ofJson?_members {c : Saved} {path : Option String} (h : c.Fits)
    (hPath : c.databasePath = path.map OsText.ofString) :
    ofJson? (Json.object (Json.members (c.slots path))) = some c := by
  have hNames : (c.slots path).map Prod.fst = names := rfl
  have hNodup : ((c.slots path).map Prod.fst).Nodup := by
    rw [hNames]
    decide
  have hSlots : (Json.object (Json.members (c.slots path))).slots? names =
      some ((c.slots path).map Prod.snd) := by
    rw [← hNames]
    exact Json.slots?_members hNodup
  rw [ofJson?, hSlots]
  simp only [slots, List.map_cons, List.map_nil, Option.bind_eq_bind, Option.bind_some,
    allowed?_textSlot, allowed?_interval h.temperatureInterval, allowed?_interval h.leakInterval,
    allowed?_pin h.leakPin, allowed?_pin h.pumpPin, allowed?_pin h.ozonePin, ← hPath]

theorem ofText?_text {c : Saved} {text : String} (h : c.Fits) (hText : c.text? = some text) :
    ofText? text = some c := by
  rcases textual_iff.mpr ⟨text, hText⟩ with ⟨path, hPath⟩
  rw [text?, toJson?_eq hPath, Option.map_some, Option.some.injEq] at hText
  have hRead : Json.read? text = some (Json.object (Json.members (c.slots path))) := by
    rw [← hText]
    apply Json.read?_pretty
    intro m hMem
    exact simple_slots h (Json.mem_members.mp hMem) rfl
  rw [ofText?, hRead]
  exact ofJson?_members h hPath

/-!
## What has been read
-/

theorem natural?_le {high n : Nat} {j : Json} (h : j.natural? high = some n) : n ≤ high := by
  cases j with
  | integer k =>
      simp only [Json.natural?] at h
      split at h
      · next hRange =>
          cases h
          omega
      · cases h
  | _ => cases h

theorem allowed?_le {high : Nat} {slot : Option Json} {value : Option Nat}
    (h : Json.allowed? (Json.natural? high) slot = some value) :
    forall n, n ∈ value -> n ≤ high := by
  intro n hMem
  rw [Option.mem_def] at hMem
  subst hMem
  cases slot with
  | none => cases h
  | some j =>
      have hValue : (j.natural? high).map some = some (some n) := by
        cases j <;> first | exact h | cases h
      rcases Option.map_eq_some_iff.mp hValue with ⟨m, hRead, hSame⟩
      cases hSame
      exact natural?_le hRead

theorem interval_lt {slot : Option Json} {value : Option Nat}
    (h : Json.allowed? interval? slot = some value) : forall n, n ∈ value -> n < Nat.pow 2 64 := by
  intro n hMem
  have hLe := allowed?_le h n hMem
  have hPos : 0 < Nat.pow 2 64 := by decide
  omega

theorem pin_lt {slot : Option Json} {value : Option Nat}
    (h : Json.allowed? pin? slot = some value) : forall n, n ∈ value -> n < Nat.pow 2 32 := by
  intro n hMem
  have hLe := allowed?_le h n hMem
  have hPos : 0 < Nat.pow 2 32 := by decide
  omega

theorem ofJson?_fits {j : Json} {c : Saved} (h : ofJson? j = some c) : c.Fits ∧ c.Textual := by
  simp only [ofJson?, Option.bind_eq_bind, Option.bind_eq_some_iff] at h
  rcases h with ⟨found, _, h⟩
  split at h
  · simp only [Option.bind_eq_some_iff, Option.some.injEq] at h
    rcases h with ⟨_, _, _, _, path, _, _, hTemperature, _, hLeak, _, _, _, _, _, _, _, hLeakPin,
      _, hPumpPin, _, hOzonePin, rfl⟩
    exact ⟨⟨interval_lt hTemperature, interval_lt hLeak, pin_lt hLeakPin, pin_lt hPumpPin,
      pin_lt hOzonePin⟩, path, rfl⟩
  · cases h

theorem ofText?_fits {text : String} {c : Saved} (h : ofText? text = some c) :
    c.Fits ∧ c.Textual := by
  rcases Option.bind_eq_some_iff.mp h with ⟨j, _, hRead⟩
  exact ofJson?_fits hRead

end Saved
end Settings
end TubMonitor
