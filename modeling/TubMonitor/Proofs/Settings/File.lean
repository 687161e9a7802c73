import TubMonitor.Proofs.FileTree.Parents
import TubMonitor.Proofs.FileTree.Writing
import TubMonitor.Proofs.Settings.Document

/-!
# The file of the saved configuration

Where the directory can be made and no more than files stand at the two names in it, saving puts
the document in its place and takes the draft away, and clearing leaves nothing there.  Either way
the next invocation finds the same to go on with.
-/

namespace TubMonitor

namespace FileTree

/-!
## Places for files
-/

/-- Nothing but a file stands at the place, if anything does. -/
def Vacant (t : FileTree) (place : Place) : Prop :=
  forall node, t.node? place = some node -> exists bytes, node = .file bytes

theorem isDirectory_of_vacant {t : FileTree} {place : Place} (h : t.Vacant place) :
    t.isDirectory place = false := by
  unfold isDirectory
  cases hNode : t.node? place with
  | none => rfl
  | some node =>
      rcases h node hNode with ⟨bytes, rfl⟩
      rfl

theorem notLink_of_vacant {t : FileTree} {place : Place} (h : t.Vacant place) :
    t.NotLink place := by
  intro target hLink
  rcases h _ hLink with ⟨bytes, hFile⟩
  cases hFile

theorem vacant_none {t : FileTree} {place : Place} (h : t.node? place = none) :
    t.Vacant place := by
  intro node hNode
  rw [h] at hNode
  cases hNode

theorem vacant_file {t : FileTree} {place : Place} {bytes : ByteArray}
    (h : t.node? place = some (.file bytes)) : t.Vacant place := by
  intro node hNode
  rw [h] at hNode
  exact ⟨bytes, (Option.some.inj hNode).symm⟩

theorem resolve_of_entry {t : FileTree} {path : OsText} {place : Place}
    (h : t.resolveEntry path = .ok place) (hVacant : t.Vacant place) :
    t.resolve path = .ok place := by
  rcases resolveEntry_ok_iff.mp h with ⟨names, hNames, hTrail⟩
  exact resolve_ok_iff.mpr ⟨names, hNames, trail_followed hTrail (notLink_of_vacant hVacant)⟩

theorem find_ok {t : FileTree} {path : OsText} {place : Place} {node : Node}
    (hResolve : t.resolve path = .ok place) (hNode : t.node? place = some node) :
    t.find path = .ok node := by
  simp [find, hResolve, hNode, bind, Except.bind]

theorem find_free {t : FileTree} {path : OsText} {place : Place}
    (hResolve : t.resolve path = .ok place) (hNode : t.node? place = none) :
    t.find path = .error .notFound := by
  simp [find, hResolve, hNode, bind, Except.bind]

/-!
## Two changes one after the other
-/

theorem erase_put_self (t : FileTree) (place : Place) (node : Node) :
    (t.put place node).erase place = t.erase place := by
  simp [put, erase]

theorem erase_put_other (t : FileTree) {place other : Place} (h : place ≠ other) (node : Node) :
    (t.put place node).erase other = (t.erase other).put place node := by
  simp [put, erase, h, Bool.and_comm]

theorem erase_erase (t : FileTree) (place : Place) :
    (t.erase place).erase place = t.erase place := by
  simp [erase]

theorem put_put (t : FileTree) (place : Place) (node other : Node) :
    (t.put place node).put place other = t.put place other := by
  simp [put]

end FileTree

namespace Settings

open FileTree (Place Node parentNames)

/-!
## Names
-/

theorem names_beside (home : OsText) :
    exists above, FileTree.components (configurationPath home) = above ++ [documentName] ∧
      FileTree.components (draftPath home) = above ++ [draftName] ∧
      parentNames (configurationPath home) = above ∧ FileTree.trimmed above = above := by
  rcases FileTree.components_beside home with ⟨up, hUp⟩
  have hSome : directoryName.bytes ≠ [] := by decide
  have hPlain : FileTree.slash ∉ directoryName.bytes := by decide
  have hNames := hUp directoryName hPlain
  have hEnds := FileTree.not_ends_join home hSome hPlain
  have hBeside (name : OsText) (h : FileTree.slash ∉ name.bytes) :
      FileTree.components (FileTree.join (FileTree.join home directoryName) name) =
        up ++ [directoryName] ++ [name] := by
    rw [FileTree.components_join hEnds h, hNames]
  have hKept := hBeside documentName (by decide)
  have hTrimmed : FileTree.trimmed (up ++ [directoryName]) = up ++ [directoryName] :=
    FileTree.trimmed_concat up (by decide)
  refine ⟨_, hKept, hBeside draftName (by decide), ?_, hTrimmed⟩
  rw [configurationPath, FileTree.parentNames_eq hKept (by decide), hTrimmed]

theorem parentNames_trimmed (home : OsText) :
    FileTree.trimmed (parentNames (configurationPath home)) =
      parentNames (configurationPath home) := by
  rcases names_beside home with ⟨above, _, _, hAbove, hTrimmed⟩
  rw [hAbove, hTrimmed]

theorem places_beside {t : FileTree} {home : OsText} {kept draft : Place}
    (hKept : t.resolveEntry (configurationPath home) = .ok kept)
    (hDraft : t.resolveEntry (draftPath home) = .ok draft) :
    exists holder, kept = documentName :: holder ∧ draft = draftName :: holder := by
  rcases names_beside home with ⟨above, hNames, hBeside, _⟩
  rcases FileTree.resolveEntry_holder hNames (by decide) (by decide) hKept with
    ⟨holder, hWalk, rfl⟩
  rcases FileTree.resolveEntry_holder hBeside (by decide) (by decide) hDraft with
    ⟨other, hOther, rfl⟩
  cases hWalk.symm.trans hOther
  exact ⟨holder, rfl, rfl⟩

theorem places_ne {t : FileTree} {home : OsText} {kept draft : Place}
    (hKept : t.resolveEntry (configurationPath home) = .ok kept)
    (hDraft : t.resolveEntry (draftPath home) = .ok draft) : kept ≠ draft := by
  rcases places_beside hKept hDraft with ⟨holder, rfl, rfl⟩
  intro hSame
  exact absurd (List.cons.inj hSame).1 (by decide)

/-!
## Where the configuration is kept
-/

/-- The directory is there with a place for the configuration and another one for its draft. -/
structure Seat (home : OsText) (t : FileTree) (kept draft : Place) : Prop where
  holder : t.leadsToDirectory (parentNames (configurationPath home)) = true
  found : t.resolveEntry (configurationPath home) = .ok kept
  vacant : t.Vacant kept
  beside : t.resolveEntry (draftPath home) = .ok draft
  spare : t.Vacant draft

/-- The directory can be made, and then the configuration can be saved in it. -/
def Writable (home : OsText) (t : FileTree) : Prop :=
  exists housed kept draft,
    t.ensureDirectories (parentNames (configurationPath home)) = .ok housed ∧
      Seat home housed kept draft

theorem housed_there {home : OsText} {t : FileTree}
    (h : t.leadsToDirectory (parentNames (configurationPath home)) = true) :
    t.ensureDirectories (parentNames (configurationPath home)) = .ok t :=
  FileTree.ensureDirectories_there (by rw [parentNames_trimmed, h])

theorem housed_leads {home : OsText} {t housed : FileTree}
    (h : t.ensureDirectories (parentNames (configurationPath home)) = .ok housed) :
    housed.leadsToDirectory (parentNames (configurationPath home)) = true := by
  rw [← parentNames_trimmed]
  exact FileTree.ensureDirectories_leads h

theorem writable_of_seat {home : OsText} {t : FileTree} {kept draft : Place}
    (h : Seat home t kept draft) : Writable home t :=
  ⟨t, kept, draft, housed_there h.holder, h⟩

theorem seat_guides {home : OsText} {t other : FileTree} {kept draft : Place}
    (h : Seat home t kept draft) (hGuides : t.Guides other) (hVacant : other.Vacant kept)
    (hSpare : other.Vacant draft) : Seat home other kept draft where
  holder := FileTree.leadsToDirectory_guides hGuides h.holder
  found := FileTree.resolveEntry_guides hGuides h.found
  vacant := hVacant
  beside := FileTree.resolveEntry_guides hGuides h.beside
  spare := hSpare

/-- Where the place of the configuration is found, its directory is there. -/
theorem holder_of_entry {home : OsText} {t : FileTree} {kept : Place}
    (h : t.resolveEntry (configurationPath home) = .ok kept) :
    t.leadsToDirectory (parentNames (configurationPath home)) = true := by
  rcases names_beside home with ⟨above, hNames, _, hAbove, _⟩
  rw [hAbove]
  exact FileTree.leadsToDirectory_parent hNames (by decide) (by decide) h

theorem holder_of_contains {home : OsText} {t : FileTree}
    (h : t.contains (configurationPath home) = true) :
    t.leadsToDirectory (parentNames (configurationPath home)) = true := by
  cases hResolve : t.resolve (configurationPath home) with
  | error fault =>
      simp [FileTree.contains, FileTree.find, hResolve, bind, Except.bind, Except.toOption] at h
  | ok place =>
      rcases FileTree.entry_of_resolve hResolve with ⟨entry, hEntry, _⟩
      exact holder_of_entry hEntry

namespace Saved

/-!
## Saving
-/

/-- The tree once the configuration has been saved at its place. -/
def stored (text : String) (t : FileTree) (kept draft : Place) : FileTree :=
  (t.erase draft).put kept (.file text.toUTF8)

theorem guides_stored (text : String) {home : OsText} {t : FileTree} {kept draft : Place}
    (h : Seat home t kept draft) : t.Guides (stored text t kept draft) := by
  have hErase := FileTree.guides_erase (FileTree.isDirectory_of_vacant h.spare)
    (FileTree.notLink_of_vacant h.spare)
  have hNe : kept ≠ draft := places_ne h.found h.beside
  have hVacant : (t.erase draft).Vacant kept := by
    intro node hNode
    rw [FileTree.node?_erase_other t hNe] at hNode
    exact h.vacant node hNode
  exact FileTree.guides_trans hErase (FileTree.guides_put_file _
    (FileTree.isDirectory_of_vacant hVacant) (FileTree.notLink_of_vacant hVacant))

theorem node?_stored (text : String) {home : OsText} {t : FileTree} {kept draft : Place}
    (h : Seat home t kept draft) :
    (stored text t kept draft).node? kept = some (.file text.toUTF8) :=
  FileTree.node?_put_self _
    (FileTree.top_of_not_isDirectory (FileTree.isDirectory_of_vacant h.vacant)) _

theorem seat_stored (text : String) {home : OsText} {t : FileTree} {kept draft : Place}
    (h : Seat home t kept draft) : Seat home (stored text t kept draft) kept draft := by
  refine seat_guides h (guides_stored text h) (FileTree.vacant_file (node?_stored text h)) ?_
  apply FileTree.vacant_none
  rw [stored, FileTree.node?_put_other _ (places_ne h.found h.beside).symm]
  exact FileTree.node?_erase_self t
    (FileTree.top_of_not_isDirectory (FileTree.isDirectory_of_vacant h.spare))

theorem save_eq {c : Saved} {text : String} {home : OsText} {t : FileTree} {kept draft : Place}
    (hText : c.text? = some text) (h : Seat home t kept draft) :
    c.save home t = (stored text t kept draft, .ok ()) := by
  have hNe := places_ne h.found h.beside
  have hSpare := FileTree.isDirectory_of_vacant h.spare
  have hWrite : t.writeText (draftPath home) text =
      .ok (t.put draft (.file text.toUTF8)) := by
    have hResolve := FileTree.resolve_of_entry h.beside h.spare
    simp [FileTree.writeText, FileTree.write, hResolve, hSpare, bind, Except.bind]
  have hGuides := FileTree.guides_put_file text.toUTF8 hSpare
    (FileTree.notLink_of_vacant h.spare)
  have hOld := FileTree.resolveEntry_guides hGuides h.beside
  have hNew := FileTree.resolveEntry_guides hGuides h.found
  have hDraft := FileTree.node?_put_self t (FileTree.top_of_not_isDirectory hSpare)
    (.file text.toUTF8)
  have hKept := FileTree.node?_put_other t hNe (.file text.toUTF8)
  have hMove : (t.put draft (.file text.toUTF8)).moveFile (draftPath home)
      (configurationPath home) = .ok (stored text t kept draft) := by
    simp only [FileTree.moveFile, hOld, hNew, hDraft, hKept, bind, Except.bind]
    cases hNode : t.node? kept with
    | none => rw [FileTree.erase_put_self, stored]
    | some node =>
        rcases h.vacant node hNode with ⟨bytes, rfl⟩
        dsimp only
        rw [FileTree.erase_put_self, stored]
  rw [save, housed_there h.holder]
  dsimp only
  rw [hText]
  dsimp only
  rw [hWrite]
  dsimp only
  rw [hMove]

theorem save_again {c : Saved} {text : String} {home : OsText} {t : FileTree}
    {kept draft : Place} (hText : c.text? = some text) (h : Seat home t kept draft) :
    c.save home (stored text t kept draft) = (stored text t kept draft, .ok ()) := by
  have hNe := places_ne h.found h.beside
  rw [save_eq hText (seat_stored text h)]
  have hSame : stored text (stored text t kept draft) kept draft = stored text t kept draft := by
    unfold stored
    rw [FileTree.erase_put_other _ hNe, FileTree.erase_erase, FileTree.put_put]
  rw [hSame]

theorem readText_stored (text : String) {home : OsText} {t : FileTree} {kept draft : Place}
    (h : Seat home t kept draft) :
    (stored text t kept draft).readText (configurationPath home) = .ok text := by
  have hSeat := seat_stored text h
  have hFind := FileTree.find_ok (FileTree.resolve_of_entry hSeat.found hSeat.vacant)
    (node?_stored text h)
  have hText := FileTree.fromUTF8?_toByteArray text
  simp [FileTree.readText, FileTree.readBytes, hFind, hText, bind, Except.bind]

theorem save_writable (c : Saved) {home : OsText} {t housed : FileTree}
    (hHoused : t.ensureDirectories (parentNames (configurationPath home)) = .ok housed) :
    c.save home t = c.save home housed := by
  rw [save, save, hHoused, housed_there (housed_leads hHoused)]

theorem save_untold {c : Saved} {home : OsText} {t housed : FileTree} (hText : c.text? = none)
    (hHoused : t.ensureDirectories (parentNames (configurationPath home)) = .ok housed) :
    c.save home t = (housed, .error untold) := by
  rw [save, hHoused]
  dsimp only
  rw [hText]

/-!
## Loading and clearing
-/

theorem load_fits (home : OsText) (t : FileTree) :
    (load home t).Fits ∧ (load home t).Textual := by
  unfold load
  split
  · next text hRead =>
      cases hSaved : ofText? text with
      | none => exact ⟨fits_empty, textual_empty⟩
      | some c => exact ofText?_fits hSaved
  · exact ⟨fits_empty, textual_empty⟩

theorem load_absent {home : OsText} {t : FileTree}
    (h : t.contains (configurationPath home) = false) : load home t = {} := by
  unfold FileTree.contains at h
  unfold load FileTree.readText FileTree.readBytes
  cases hFind : t.find (configurationPath home) with
  | error fault => rfl
  | ok node =>
      rw [hFind] at h
      cases h

theorem seat_erased {home : OsText} {t : FileTree} {kept draft : Place}
    (h : Seat home t kept draft) : Seat home (t.erase kept) kept draft := by
  have hFree := FileTree.isDirectory_of_vacant h.vacant
  have hGuides := FileTree.guides_erase hFree (FileTree.notLink_of_vacant h.vacant)
  have hGone := FileTree.node?_erase_self t (FileTree.top_of_not_isDirectory hFree)
  have hSpare : (t.erase kept).Vacant draft := by
    intro node hNode
    rw [FileTree.node?_erase_other t (places_ne h.found h.beside).symm] at hNode
    exact h.spare node hNode
  exact seat_guides h hGuides (FileTree.vacant_none hGone) hSpare

theorem absent_erased {home : OsText} {t : FileTree} {kept draft : Place}
    (h : Seat home t kept draft) :
    (t.erase kept).contains (configurationPath home) = false := by
  have hErased := seat_erased h
  have hGone := FileTree.node?_erase_self t
    (FileTree.top_of_not_isDirectory (FileTree.isDirectory_of_vacant h.vacant))
  rw [FileTree.contains,
    FileTree.find_free (FileTree.resolve_of_entry hErased.found hErased.vacant) hGone]
  rfl

/-- What is there is a file, and it is taken away. -/
theorem clear_eq {home : OsText} {t : FileTree} {kept draft : Place} (h : Seat home t kept draft)
    (hContains : t.contains (configurationPath home) = true) :
    clear home t = (t.erase kept, .ok ()) := by
  have hRemove : t.removeFile (configurationPath home) = .ok (t.erase kept) := by
    cases hNode : t.node? kept with
    | none =>
        have hMissing := FileTree.find_free (FileTree.resolve_of_entry h.found h.vacant) hNode
        rw [FileTree.contains, hMissing] at hContains
        cases hContains
    | some node =>
        rcases h.vacant node hNode with ⟨bytes, rfl⟩
        simp [FileTree.removeFile, h.found, hNode, bind, Except.bind]
  rw [clear, if_pos hContains, hRemove]

/-- After clearing there is no configuration, and one can be saved.  Where something has been
cleared the directory is there. -/
theorem clear_writable {home : OsText} {t : FileTree} (h : Writable home t) :
    Writable home (clear home t).1 ∧
      (clear home t).1.contains (configurationPath home) = false ∧
      ((clear home t).1 = t ∨ (clear home t).1.leadsToDirectory
        (parentNames (configurationPath home)) = true) := by
  cases hContains : t.contains (configurationPath home) with
  | true =>
      rcases h with ⟨housed, kept, draft, hHoused, hSeat⟩
      cases (housed_there (holder_of_contains hContains)).symm.trans hHoused
      have hErased := seat_erased hSeat
      rw [clear_eq hSeat hContains]
      exact ⟨writable_of_seat hErased, absent_erased hSeat, Or.inr hErased.holder⟩
  | false =>
      have hSame : clear home t = (t, .ok ()) := by
        rw [clear, if_neg (by simp [hContains])]
      rw [hSame]
      exact ⟨h, hContains, Or.inl rfl⟩

end Saved
end Settings
end TubMonitor
