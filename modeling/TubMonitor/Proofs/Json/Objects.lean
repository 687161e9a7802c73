import Mathlib.Data.List.Nodup
import TubMonitor.Json.Slots
import TubMonitor.Proofs.Json.Tokens

/-!
# Objects that are read back

An object of texts and whole numbers is written as a document that is read as this object.  Its
members are found under their names, and a name that has none is found to be missing.
-/

namespace TubMonitor
namespace Json

/-!
## What is left to read
-/

/-- What a document is, of which some has been read and a row is still to be read. -/
def finish (p : Progress) (row : List Char) : Option Json :=
  (tokens? row).bind fun tokens => (tokens.foldlM Progress.step? p).bind Progress.result?

theorem readRow?_eq_finish (row : List Char) : readRow? row = finish Progress.start row := rfl

theorem finish_space (p : Progress) {c : Char} (rest : List Char) (h : isSpace c = true) :
    finish p (c :: rest) = finish p rest := by
  rw [finish, tokens?, if_pos h]
  rfl

theorem finish_spaces (p : Progress) {spaces : List Char} (rest : List Char)
    (h : forall c, c ∈ spaces -> isSpace c = true) : finish p (spaces ++ rest) = finish p rest := by
  induction spaces with
  | nil => rfl
  | cons c spaces ih =>
      rw [List.cons_append, finish_space p _ (h c (List.mem_cons_self ..))]
      exact ih fun other hMem => h other (List.mem_cons_of_mem _ hMem)

theorem finish_token {p next : Progress} {row rest : List Char} {token : Token}
    (hToken : token? (row ++ rest) = some (token, rest))
    (hStart : exists c tail, row = c :: tail ∧ isSpace c = false)
    (hStep : p.step? token = some next) : finish p (row ++ rest) = finish next rest := by
  rcases hStart with ⟨c, tail, rfl, hSpace⟩
  rw [List.cons_append] at hToken ⊢
  rw [finish, tokens?, if_neg (by simp [hSpace])]
  split
  · next hNone =>
      rw [hToken] at hNone
      cases hNone
  · next other behind hSome =>
      rw [hToken] at hSome
      cases hSome
      cases hRest : tokens? rest with
      | none => simp [finish, hRest]
      | some tokens => simp [finish, hRest, hStep]

/-!
## Values without parts
-/

/-- The value is written as a single token, and is what begins with that token. -/
structure Spelled (value : Json) (row : List Char) (token : Token) : Prop where
  written : forall depth, prettyRow depth value = row
  starts : exists c tail, row = c :: tail ∧ isSpace c = false
  read : forall rest, Ends rest -> token? (row ++ rest) = some (token, rest)
  begins : forall stack, Progress.begin? stack token = some (Progress.complete stack value)

def Simple (value : Json) : Prop :=
  exists row token, Spelled value row token

theorem simple_text (s : String) : Simple (ofString s) := by
  refine ⟨textRow s, .text (some s), ?_⟩
  constructor
  · intro depth
    rw [ofString, prettyRow]
    · rfl
    all_goals
      intros
      contradiction
  · exact ⟨'"', s.toList.flatMap escapeChar ++ ['"'], rfl, rfl⟩
  · intro rest _
    exact token?_textRow s rest
  · intro stack
    rfl

theorem simple_count {n : Nat} (h : n ≤ word64) : Simple (.integer n) := by
  refine ⟨Decimal.digitRow n, .number (numeralOf n), ?_⟩
  constructor
  · intro depth
    rw [prettyRow]
    · simp [leafRow, Decimal.integerRow]
    all_goals
      intros
      contradiction
  · rcases digitRow_cons n with ⟨c, tail, hRow, hDigit⟩
    refine ⟨c, tail, hRow, ?_⟩
    have hNot (mark : Char) (hMark : mark.isDigit = false) : (c == mark) = false := by
      rw [beq_eq_false_iff_ne]
      rintro rfl
      rw [hDigit] at hMark
      cases hMark
    rw [isSpace, hNot ' ' rfl, hNot '\n' rfl, hNot '\t' rfl, hNot '\r' rfl]
    rfl
  · intro rest hEnds
    exact token?_digitRow n hEnds
  · intro stack
    simp [Progress.begin?, value_numeralOf h]

/-!
## Members
-/

def named (members : List (String × Json)) : List (Option String × Json) :=
  members.map fun m => (some m.1, m.2)

theorem space_newLine (depth : Nat) : forall c, c ∈ newLine depth -> isSpace c = true := by
  intro c hMem
  rw [newLine, List.mem_cons] at hMem
  rcases hMem with rfl | hBlank
  · rfl
  · rw [(List.mem_replicate.mp hBlank).2]
    rfl

theorem ends_newLine (depth : Nat) (rest : List Char) : Ends (newLine depth ++ rest) := by
  intro c hHead
  cases hHead
  decide

theorem ends_comma (rest : List Char) : Ends (',' :: rest) := by
  intro c hHead
  cases hHead
  decide

theorem finish_mark {p : Progress} (next : Progress) {c : Char} {rest : List Char} {token : Token}
    (hMark : punctuation? c = some token) (hSpace : isSpace c = false) (hQuote : c ≠ '"')
    (hStep : p.step? token = some next) : finish p (c :: rest) = finish next rest := by
  have hToken : token? ([c] ++ rest) = some (token, rest) := by
    rw [List.singleton_append, token?, hMark]
    intro hText
    exact hQuote hText
  exact finish_token hToken ⟨c, [], rfl, hSpace⟩ hStep

theorem finish_member {p : Progress} {name : String} {value : Json} (hValue : Simple value)
    {before : List (Option String × Json)} {rest : List Char} (depth : Nat) (hEnds : Ends rest)
    (hName : p.step? (.text (some name)) =
      some { stack := [], place := .colon before (some name) }) :
    finish p (newLine depth ++ nameRow (some name) ++ [':', ' '] ++ prettyRow depth value ++ rest) =
      finish { stack := [.fields before (some name)], place := .next value } rest := by
  rcases hValue with ⟨row, token, hSpelled⟩
  have hText := token?_textRow name ([':', ' '] ++ row ++ rest)
  rw [hSpelled.written]
  simp only [List.append_assoc] at hText ⊢
  rw [finish_spaces p _ (space_newLine depth)]
  rw [show nameRow (some name) = textRow name from rfl]
  rw [finish_token hText ⟨'"', name.toList.flatMap escapeChar ++ ['"'], rfl, rfl⟩ hName]
  show finish _ (':' :: ' ' :: (row ++ rest)) = _
  rw [finish_mark { stack := [.fields before (some name)], place := .value } rfl rfl
    (by decide) rfl]
  rw [finish_space _ _ rfl]
  exact finish_token (hSpelled.read rest hEnds) hSpelled.starts (hSpelled.begins _)

/-- The members that are still to be read, up to the end of the object. -/
theorem finish_members {members : List (String × Json)} (before : List (Option String × Json))
    {p : Progress} (hSome : members ≠ []) (hSimple : forall m, m ∈ members -> Simple m.2)
    (hName : forall name, p.step? (.text name) =
      some { stack := [], place := .colon before name }) :
    finish p (prettyMembers 1 (named members) ++ newLine 0 ++ ['\x7d']) =
      some (fields (before.reverse ++ named members)) := by
  induction members generalizing before p with
  | nil => exact absurd rfl hSome
  | cons m rest ih =>
      obtain ⟨name, value⟩ := m
      have hValue := hSimple (name, value) (List.mem_cons_self ..)
      cases rest with
      | nil =>
          rw [named, List.map_singleton, prettyMembers, List.append_assoc,
            finish_member hValue 1 (ends_newLine 0 _) (hName (some name)),
            finish_spaces _ _ (space_newLine 0),
            finish_mark (Progress.complete []
              (fields (((some name, value) :: before).reverse))) rfl rfl (by decide) rfl]
          simp [finish, tokens?, Progress.complete, Progress.result?]
      | cons other rest =>
          have hOthers : forall m, m ∈ other :: rest -> Simple m.2 :=
            fun m hMem => hSimple m (List.mem_cons_of_mem _ hMem)
          have hRest := ih ((some name, value) :: before)
            (p := { stack := [], place := .name ((some name, value) :: before) })
            (by simp) hOthers fun _ => rfl
          have hSplit : prettyMembers 1 (named ((name, value) :: other :: rest)) ++ newLine 0 ++
                ['\x7d'] =
              newLine 1 ++ nameRow (some name) ++ [':', ' '] ++ prettyRow 1 value ++
                ',' :: (prettyMembers 1 (named (other :: rest)) ++ newLine 0 ++ ['\x7d']) := by
            simp [named, prettyMembers]
          rw [hSplit, finish_member hValue 1 (ends_comma _) (hName (some name)),
            finish_mark { stack := [], place := .name ((some name, value) :: before) }
              rfl rfl (by decide) rfl, hRest]
          simp [named]

theorem read?_pretty {members : List (String × Json)}
    (hSimple : forall m, m ∈ members -> Simple m.2) :
    read? (object members).pretty = some (object members) := by
  rw [read?, pretty, String.toList_ofList, readRow?_eq_finish]
  cases members with
  | nil =>
      show finish Progress.start ['\x7b', '\x7d'] = _
      rw [finish_mark { stack := [], place := .firstName [] } rfl rfl (by decide) rfl,
        finish_mark (Progress.complete [] (fields [])) rfl rfl (by decide) rfl]
      simp [finish, tokens?, Progress.complete, Progress.result?, object]
  | cons m rest =>
      have hWritten : prettyRow 0 (object (m :: rest)) =
          '\x7b' :: (prettyMembers 1 (named (m :: rest)) ++ newLine 0 ++ ['\x7d']) := by
        rw [object, List.map_cons, prettyRow]
        · rfl
        · intro hNil
          cases hNil
      have hMembers := finish_members []
        (p := { stack := [], place := .firstName [] }) (by simp) hSimple fun _ => rfl
      rw [hWritten, finish_mark { stack := [], place := .firstName [] } rfl rfl
        (by decide) rfl, hMembers]
      rfl

/-!
## Slots
-/

/-- The members of a record; a slot that is empty has none. -/
def members (slots : List (String × Option Json)) : List (String × Json) :=
  slots.filterMap fun slot => slot.2.map fun value => (slot.1, value)

theorem mem_members {slots : List (String × Option Json)} {m : String × Json} :
    m ∈ members slots ↔ (m.1, some m.2) ∈ slots := by
  unfold members
  rw [List.mem_filterMap]
  constructor
  · rintro ⟨⟨name, value⟩, hMem, hSlot⟩
    rcases Option.map_eq_some_iff.mp hSlot with ⟨held, rfl, rfl⟩
    exact hMem
  · intro hMem
    exact ⟨(m.1, some m.2), hMem, rfl⟩

theorem filter_members {slots : List (String × Option Json)} {name : String}
    (h : name ∉ slots.map Prod.fst) :
    (named (members slots)).filter (fun m => m.1 == some name) = [] := by
  rw [List.filter_eq_nil_iff]
  intro m hMem hName
  rcases List.mem_map.mp hMem with ⟨held, hHeld, rfl⟩
  rw [beq_iff_eq, Option.some.injEq] at hName
  exact h (hName ▸ List.mem_map_of_mem (mem_members.mp hHeld))

theorem members_cons (slot : String × Option Json) (slots : List (String × Option Json)) :
    named (members (slot :: slots)) =
      (slot.2.map fun value => (some slot.1, value)).toList ++ named (members slots) := by
  obtain ⟨name, value⟩ := slot
  cases value with
  | none => rfl
  | some value => rfl

theorem member?_members {slots : List (String × Option Json)} {slot : String × Option Json}
    (hNodup : (slots.map Prod.fst).Nodup) (hMem : slot ∈ slots) :
    member? (named (members slots)) slot.1 = some slot.2 := by
  have hFilter : (named (members slots)).filter (fun m => m.1 == some slot.1) =
      (slot.2.map fun value => (some slot.1, value)).toList := by
    induction slots with
    | nil => cases hMem
    | cons first rest ih =>
        rw [List.map_cons, List.nodup_cons] at hNodup
        rw [members_cons, List.filter_append]
        rcases List.mem_cons.mp hMem with rfl | hRest
        · rw [filter_members hNodup.1, List.append_nil]
          cases slot.2 <;> simp
        · have hOther : first.1 ≠ slot.1 := by
            intro hSame
            exact hNodup.1 (hSame ▸ List.mem_map_of_mem hRest)
          rw [ih hNodup.2 hRest]
          cases first.2 <;> simp [hOther]
  unfold member?
  rw [hFilter]
  cases slot.2 <;> rfl

theorem slots?_members {slots : List (String × Option Json)}
    (hNodup : (slots.map Prod.fst).Nodup) :
    (object (members slots)).slots? (slots.map Prod.fst) = some (slots.map Prod.snd) := by
  have hNames : ((named (members slots)).any fun m => m.1.isNone) = false := by
    simp [named]
  have hAll (part : List (String × Option Json)) (hPart : forall slot, slot ∈ part -> slot ∈ slots) :
      (part.map Prod.fst).mapM (member? (named (members slots))) =
        some (part.map Prod.snd) := by
    induction part with
    | nil => rfl
    | cons slot rest ih =>
        have hSlot := member?_members hNodup (hPart slot (List.mem_cons_self ..))
        have hRest := ih fun other hMem => hPart other (List.mem_cons_of_mem _ hMem)
        simp [hSlot, hRest]
  show (if (named (members slots)).any (fun m => m.1.isNone) then none else _) = _
  rw [hNames, if_neg Bool.false_ne_true]
  exact hAll slots fun _ hMem => hMem

end Json
end TubMonitor
