import TubMonitor.Proofs.FileTree.Guides

/-!
# Writing and reading back

A walk that follows links ends at a directory, at a file or where nothing stands,
never at a link.  A file that is put at the end of a walk is therefore found by the
same walk, whatever links lead there.
-/

namespace TubMonitor
namespace FileTree

/-!
## Where walks end
-/

/-- All that leads to a place are directories. -/
def Housed (t : FileTree) : Place -> Prop
  | [] => True
  | _ :: above => t.isDirectory above = true ∧ Housed t above

theorem housed_tail {t : FileTree} {place : Place} (h : t.Housed place) :
    t.Housed place.tail ∧ t.NotLink place.tail := by
  cases place with
  | nil => exact ⟨h, notLink_of_isDirectory rfl⟩
  | cons name above => exact ⟨h.2, notLink_of_isDirectory h.1⟩

theorem housed_base {t : FileTree} {place : Place} (h : t.Housed place)
    (hDirectory : t.isDirectory place = true) (target : OsText) :
    t.Housed (base place target) ∧ t.NotLink (base place target) := by
  unfold base
  split
  · exact ⟨trivial, notLink_of_isDirectory rfl⟩
  · exact ⟨h, notLink_of_isDirectory hDirectory⟩

theorem trail_notLink {t : FileTree} {links : Nat} {place found : Place} {names : List OsText}
    (hHoused : t.Housed place) (hNotLink : t.NotLink place)
    (h : Trail t true links place names found) : t.NotLink found := by
  induction h with
  | done => exact hNotLink
  | stay _ _ _ ih => exact ih hHoused hNotLink
  | up _ _ ih => exact ih (housed_tail hHoused).1 (housed_tail hHoused).2
  | free _ _ hNone => exact notLink_of_none hNone
  | stop _ _ _ hLast => cases hLast
  | @follow links place found name target rest hDirectory hName hLink hLast hRest ih =>
      have hBase := housed_base hHoused hDirectory target
      exact ih hBase.1 hBase.2
  | enter hDirectory _ _ hOn _ ih => exact ih ⟨hDirectory, hHoused⟩ hOn

theorem resolve_notLink {t : FileTree} {path : OsText} {found : Place}
    (h : t.resolve path = .ok found) : t.NotLink found := by
  rcases resolve_ok_iff.mp h with ⟨names, _, hTrail⟩
  have hHoused : t.Housed [] := trivial
  exact trail_notLink hHoused (notLink_of_isDirectory rfl) hTrail

/-!
## What has been written
-/

theorem write_ok {t written : FileTree} {path : OsText} {bytes : ByteArray}
    (h : t.write path bytes = .ok written) :
    exists place, t.resolve path = .ok place ∧ t.isDirectory place = false ∧
      written = t.put place (.file bytes) := by
  unfold write at h
  cases hResolve : t.resolve path with
  | error fault => simp [hResolve, bind, Except.bind] at h
  | ok place =>
      simp only [hResolve, bind, Except.bind] at h
      split at h
      · cases h
      · next hFree =>
          cases h
          exact ⟨place, rfl, by simpa using hFree, rfl⟩

theorem find_put {t : FileTree} {path : OsText} {place : Place} (bytes : ByteArray)
    (hResolve : t.resolve path = .ok place) (hFree : t.isDirectory place = false) :
    (t.put place (.file bytes)).find path = .ok (.file bytes) := by
  have hGuides := guides_put_file bytes hFree (resolve_notLink hResolve)
  have hAgain := resolve_guides hGuides hResolve
  have hNode := node?_put_self t (top_of_not_isDirectory hFree) (.file bytes)
  simp [find, hAgain, hNode, bind, Except.bind]

theorem readBytes_write {t written : FileTree} {path : OsText} {bytes : ByteArray}
    (h : t.write path bytes = .ok written) : written.readBytes path = .ok bytes := by
  rcases write_ok h with ⟨place, hResolve, hFree, rfl⟩
  simp [readBytes, find_put bytes hResolve hFree, bind, Except.bind]

theorem fromUTF8?_toByteArray (text : String) :
    String.fromUTF8? text.toByteArray = some text :=
  OsText.text?_ofString text

theorem readText_writeText {t written : FileTree} {path : OsText} {text : String}
    (h : t.writeText path text = .ok written) : written.readText path = .ok text := by
  simp [readText, readBytes_write h, fromUTF8?_toByteArray, bind, Except.bind]

theorem readText_ok_iff {t : FileTree} {path : OsText} {text : String} :
    t.readText path = .ok text ↔ exists place bytes, t.resolve path = .ok place ∧
      t.node? place = some (.file bytes) ∧ String.fromUTF8? bytes = some text := by
  unfold readText readBytes find
  cases hResolve : t.resolve path with
  | error fault => simp [bind, Except.bind]
  | ok place =>
      cases hNode : t.node? place with
      | none => simp [hNode, bind, Except.bind]
      | some node =>
          cases node with
          | directory => simp [hNode, bind, Except.bind]
          | link target => simp [hNode, bind, Except.bind]
          | file bytes =>
              cases hText : String.fromUTF8? bytes with
              | none => simp [hNode, hText, bind, Except.bind]
              | some read => simp [hNode, hText, bind, Except.bind]

theorem linkless_of_rows {t : FileTree}
    (h : forall row, row ∈ t.rows -> forall target, row.2 ≠ .link target) (place : Place) :
    t.NotLink place := by
  intro target hLink
  unfold node? at hLink
  split at hLink
  · cases hLink
  · rcases List.lookup_eq_some_iff.mp hLink with ⟨before, after, hRows, _⟩
    have hMem : (place, Node.link target) ∈ t.rows := by simp [hRows]
    exact h _ hMem target rfl

end FileTree
end TubMonitor
