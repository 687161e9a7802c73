import TubMonitor.Proofs.Settings.File

/-!
# Saving and loading

What has been saved is loaded again as it was, and what could not be saved leaves what stands in
its place.  Whether it can is told by the tree: the directory has to be there or to be made, and
neither of the two names may be that of a directory.  Links under these names are left out, for a
draft is written through a link and then takes it along.
-/

namespace TubMonitor

namespace FileTree

theorem vacant_of_free {t : FileTree} {place : Place} (hFree : t.isDirectory place = false)
    (hNotLink : t.NotLink place) : t.Vacant place := by
  intro node hNode
  cases node with
  | file bytes => exact ⟨bytes, rfl⟩
  | link target => exact absurd hNode (hNotLink target)
  | directory => simp [isDirectory, hNode, Node.isDirectory] at hFree

/-- A file that takes the place of another one, or of nothing, misleads no walk either way. -/
theorem put_guides {t : FileTree} {place : Place} (bytes : ByteArray) (hVacant : t.Vacant place) :
    (t.put place (.file bytes)).Guides t := by
  have hFree := isDirectory_of_vacant hVacant
  have hFile := node?_put_self t (top_of_not_isDirectory hFree) (.file bytes)
  have hPut := vacant_file hFile
  refine guides_change (isDirectory_of_vacant hPut) (notLink_of_vacant hPut)
    (notLink_of_vacant hVacant) fun other hOther => ?_
  exact (node?_put_other t hOther _).symm

theorem node?_of_isDirectory {t : FileTree} {place : Place} (h : t.isDirectory place = true) :
    t.node? place = some .directory := by
  rcases (Option.any_eq_true _ _).mp h with ⟨node, hNode, hDirectory⟩
  cases node with
  | directory => exact hNode
  | file bytes => cases hDirectory
  | link target => cases hDirectory

theorem moveFile_ok {t moved : FileTree} {source target : OsText}
    (h : t.moveFile source target = .ok moved) :
    exists place, t.resolveEntry target = .ok place ∧ t.isDirectory place = false := by
  unfold moveFile at h
  cases hOld : t.resolveEntry source with
  | error fault => simp [hOld, bind, Except.bind] at h
  | ok old =>
      cases hNew : t.resolveEntry target with
      | error fault => simp [hOld, hNew, bind, Except.bind] at h
      | ok new =>
          refine ⟨new, rfl, ?_⟩
          cases hDirectory : t.isDirectory new with
          | false => rfl
          | true =>
              have hNode := node?_of_isDirectory hDirectory
              simp only [hOld, hNew, hNode, bind, Except.bind] at h
              split at h <;> simp_all

end FileTree

namespace Settings

open FileTree (Place Node parentNames)

/-!
## Names without links
-/

structure Unlinked (home : OsText) (t : FileTree) : Prop where
  kept : forall place, t.resolveEntry (configurationPath home) = .ok place -> t.NotLink place
  draft : forall place, t.resolveEntry (draftPath home) = .ok place -> t.NotLink place

/-- No link bears either name once the directory is there. -/
def Plain (home : OsText) (t : FileTree) : Prop :=
  forall housed, t.ensureDirectories (parentNames (configurationPath home)) = .ok housed ->
    Unlinked home housed

theorem plain_of_linkless {t : FileTree} (h : forall place, t.NotLink place) (home : OsText) :
    Plain home t := by
  intro housed hHoused
  have hGuides := FileTree.ensureDirectories_guides hHoused
  have hNotLink (place : Place) : housed.NotLink place :=
    (FileTree.guides_notLink hGuides).mp (h place)
  exact ⟨fun place _ => hNotLink place, fun place _ => hNotLink place⟩

theorem entry_unlinked {t : FileTree} {path : OsText} {found : Place}
    (hNotLink : forall place, t.resolveEntry path = .ok place -> t.NotLink place)
    (h : t.resolve path = .ok found) : t.resolveEntry path = .ok found := by
  rcases FileTree.entry_of_resolve h with ⟨entry, hEntry, hSame⟩
  rw [hEntry, hSame (hNotLink entry hEntry)]

/-!
## Saving that succeeds or fails
-/

namespace Saved

/-- What a failed attempt leaves: some of the directories that it needs, or all of them, or a
draft besides. -/
inductive Attempt (home : OsText) (t : FileTree) : FileTree -> Prop where
  | blocked {fault : OsError} {left : FileTree}
      (hBlocked : t.ensureDirectories (parentNames (configurationPath home)) =
        .error (fault, left)) :
      Attempt home t left
  | housed {housed : FileTree}
      (hHoused : t.ensureDirectories (parentNames (configurationPath home)) = .ok housed) :
      Attempt home t housed
  | drafted {housed : FileTree} {draft : Place} {bytes : ByteArray}
      (hHoused : t.ensureDirectories (parentNames (configurationPath home)) = .ok housed)
      (hDraft : housed.resolveEntry (draftPath home) = .ok draft) (hSpare : housed.Vacant draft) :
      Attempt home t (housed.put draft (.file bytes))

theorem save_writable_ok {c : Saved} {text : String} {home : OsText} {t : FileTree}
    (hText : c.text? = some text) (h : Writable home t) :
    exists saved, c.save home t = (saved, .ok ()) ∧
      saved.readText (configurationPath home) = .ok text := by
  rcases h with ⟨housed, kept, draft, hHoused, hSeat⟩
  exact ⟨stored text housed kept draft, by rw [save_writable c hHoused, save_eq hText hSeat],
    readText_stored text hSeat⟩

theorem save_failed (c : Saved) {home : OsText} {t : FileTree} (hPlain : Plain home t)
    (hNot : ¬ (c.Textual ∧ Writable home t)) :
    exists fault, (c.save home t).2 = .error fault ∧ Attempt home t (c.save home t).1 := by
  unfold save
  cases hHoused : t.ensureDirectories (parentNames (configurationPath home)) with
  | error fault => exact ⟨.io fault.1, rfl, .blocked hHoused⟩
  | ok housed =>
      have hUnlinked := hPlain housed hHoused
      dsimp only
      cases hText : c.text? with
      | none => exact ⟨untold, rfl, .housed hHoused⟩
      | some text =>
          dsimp only
          cases hWrite : housed.writeText (draftPath home) text with
          | error fault => exact ⟨.io fault, rfl, .housed hHoused⟩
          | ok drafted =>
              rcases FileTree.write_ok hWrite with ⟨draft, hResolve, hFree, rfl⟩
              have hDraft := entry_unlinked hUnlinked.draft hResolve
              have hSpare := FileTree.vacant_of_free hFree (hUnlinked.draft draft hDraft)
              dsimp only
              cases hMove : (housed.put draft (.file text.toUTF8)).moveFile (draftPath home)
                  (configurationPath home) with
              | error fault => exact ⟨.io fault, rfl, .drafted hHoused hDraft hSpare⟩
              | ok saved =>
                  -- what takes its place could have been saved
                  rcases FileTree.moveFile_ok hMove with ⟨kept, hKept, hFile⟩
                  have hFound := FileTree.resolveEntry_guides
                    (FileTree.put_guides text.toUTF8 hSpare) hKept
                  rw [FileTree.isDirectory, FileTree.node?_put_other _ (places_ne hFound hDraft)]
                    at hFile
                  have hVacant := FileTree.vacant_of_free hFile (hUnlinked.kept kept hFound)
                  have hWritable : Writable home t :=
                    ⟨housed, kept, draft, hHoused, housed_leads hHoused, hFound, hVacant, hDraft,
                      hSpare⟩
                  exact absurd ⟨textual_iff.mpr ⟨text, hText⟩, hWritable⟩ hNot

end Saved

/-!
## What is spared
-/

/-- What stood in the place of the configuration still stands there, with all that is below it. -/
structure Spared (home : OsText) (t after : FileTree) : Prop where
  entry : forall kept, t.resolveEntry (configurationPath home) = .ok kept ->
    after.resolveEntry (configurationPath home) = .ok kept ∧
      forall place, kept <:+ place -> after.node? place = t.node? place
  /-- Nothing comes to stand there but a directory that the way to its own directory leads
  through. -/
  bare : forall kept, after.resolveEntry (configurationPath home) = .ok kept ->
    t.node? kept = none -> after.node? kept = none ∨
      after.node? kept = some .directory ∧ exists front,
        front <+: parentNames (configurationPath home) ∧
          after.walk true FileTree.linkLimit [] front = .ok kept

theorem furnishes_bare {names : List OsText} {t other : FileTree} {place : Place}
    (h : FileTree.Furnishes names t other) (hNone : t.node? place = none) :
    other.node? place = none ∨ other.node? place = some .directory ∧
      exists front, front <+: names ∧
        other.walk true FileTree.linkLimit [] front = .ok place := by
  rcases h.places place with hSame | ⟨_, hDirectory, front, hFront, hTrail⟩
  · exact Or.inl (hSame.trans hNone)
  · exact Or.inr ⟨hDirectory, front, hFront, FileTree.walk_of_trail hTrail⟩

theorem furnishes_outcome {home : OsText} {t after : FileTree}
    (h : FileTree.outcome (t.ensureDirectories (parentNames (configurationPath home))) = after) :
    FileTree.Furnishes (parentNames (configurationPath home)) t after := by
  rw [← h]
  exact FileTree.ensureDirectories_furnishes t _

theorem housed_of_entry {home : OsText} {t : FileTree} {kept : Place}
    (h : t.resolveEntry (configurationPath home) = .ok kept) :
    t.ensureDirectories (parentNames (configurationPath home)) = .ok t :=
  housed_there (holder_of_entry h)

/-- The draft does not stand below the configuration. -/
theorem draft_apart {t : FileTree} {home : OsText} {kept draft place : Place}
    (hKept : t.resolveEntry (configurationPath home) = .ok kept)
    (hDraft : t.resolveEntry (draftPath home) = .ok draft) (hBelow : kept <:+ place) :
    place ≠ draft := by
  rintro rfl
  rcases places_beside hKept hDraft with ⟨holder, rfl, rfl⟩
  have hSame := hBelow.eq_of_length rfl
  exact absurd (List.cons.inj hSame).1 (by decide)

theorem spared_attempt {home : OsText} {t after : FileTree} (h : Saved.Attempt home t after) :
    Spared home t after := by
  cases h with
  | blocked hBlocked =>
      constructor
      · intro kept hKept
        rw [housed_of_entry hKept] at hBlocked
        cases hBlocked
      · intro kept _ hNone
        exact furnishes_bare (furnishes_outcome (by rw [hBlocked]; rfl)) hNone
  | housed hHoused =>
      constructor
      · intro kept hKept
        cases (housed_of_entry hKept).symm.trans hHoused
        exact ⟨hKept, fun _ _ => rfl⟩
      · intro kept _ hNone
        exact furnishes_bare (furnishes_outcome (by rw [hHoused]; rfl)) hNone
  | @drafted housed draft bytes hHoused hDraft hSpare =>
      have hGuides := FileTree.guides_put_file bytes (FileTree.isDirectory_of_vacant hSpare)
        (FileTree.notLink_of_vacant hSpare)
      constructor
      · intro kept hKept
        cases (housed_of_entry hKept).symm.trans hHoused
        refine ⟨FileTree.resolveEntry_guides hGuides hKept, fun place hBelow => ?_⟩
        exact FileTree.node?_put_other t (draft_apart hKept hDraft hBelow) _
      · intro kept hKept hNone
        have hFound := FileTree.resolveEntry_guides (FileTree.put_guides bytes hSpare) hKept
        rw [FileTree.node?_put_other _ (places_ne hFound hDraft)]
        have hFurnishes : FileTree.Furnishes (parentNames (configurationPath home)) t housed :=
          furnishes_outcome (by rw [hHoused]; rfl)
        rcases furnishes_bare hFurnishes hNone with hFree | ⟨hDirectory, front, hFront, hWalk⟩
        · exact Or.inl hFree
        · have hTrail := FileTree.trail_guides hGuides (FileTree.trail_of_walk hWalk)
          exact Or.inr ⟨hDirectory, front, hFront, FileTree.walk_of_trail hTrail⟩

theorem readText_spared {home : OsText} {text : String} {t after : FileTree} (hPlain : Plain home t)
    (hSpared : Spared home t after) (h : t.readText (configurationPath home) = .ok text) :
    after.readText (configurationPath home) = .ok text := by
  rcases FileTree.readText_ok_iff.mp h with ⟨kept, bytes, hResolve, hNode, hText⟩
  have hEntry : t.resolveEntry (configurationPath home) = .ok kept := by
    rcases FileTree.entry_of_resolve hResolve with ⟨entry, hEntry, _⟩
    exact entry_unlinked (hPlain t (housed_of_entry hEntry)).kept hResolve
  rcases hSpared.entry kept hEntry with ⟨hStill, hBelow⟩
  have hFile : after.node? kept = some (.file bytes) :=
    (hBelow kept (List.suffix_refl kept)).trans hNode
  have hFound := FileTree.resolve_of_entry hStill (FileTree.vacant_file hFile)
  exact FileTree.readText_ok_iff.mpr ⟨kept, bytes, hFound, hFile, hText⟩

/-!
## The law
-/

namespace Saved

theorem load_of_readText {home : OsText} {text : String} {t : FileTree} {found : Saved}
    (hRead : t.readText (configurationPath home) = .ok text) (hFound : ofText? text = some found) :
    load home t = found := by
  unfold load
  rw [hRead]
  show (ofText? text).getD {} = found
  rw [hFound, Option.getD_some]

theorem load_saved {home : OsText} {t : FileTree} {c : Saved} (hFits : c.Fits)
    (hTextual : c.Textual) (h : Writable home t) : load home (c.save home t).1 = c := by
  rcases textual_iff.mp hTextual with ⟨text, hText⟩
  rcases save_writable_ok hText h with ⟨saved, hSave, hRead⟩
  rw [hSave]
  exact load_of_readText hRead (ofText?_text hFits hText)

end Saved

/--
Where no link bears the name of the configuration or of the draft: saving succeeds if and only if
the path to be saved is a text, the directory is there or can be made, and both names are those of
files or free; and then what has been saved is loaded.  Where it fails, what stands in the place of
the configuration is spared.  What can be loaded of any text in that place is loaded again once it
has been saved, or once that has failed.
-/
theorem saved_round_trip_law {home : OsText} {t : FileTree} {c : Saved} (hPlain : Plain home t)
    (hFits : c.Fits) :
    let outcome := c.save home t
    (outcome.2 = .ok () ↔ c.Textual ∧ Writable home t) ∧
      (outcome.2 = .ok () -> Saved.load home outcome.1 = c) ∧
      (forall fault, outcome.2 = .error fault -> Spared home t outcome.1) ∧
      forall text found, t.readText (configurationPath home) = .ok text ->
        Saved.ofText? text = some found ->
        Saved.load home t = found ∧ Saved.load home (found.save home t).1 = found := by
  intro outcome
  have hDone : outcome.2 = .ok () ↔ c.Textual ∧ Writable home t := by
    constructor
    · intro hOk
      by_contra hNot
      rcases Saved.save_failed c hPlain hNot with ⟨fault, hFault, _⟩
      cases hOk.symm.trans hFault
    · rintro ⟨hTextual, hWritable⟩
      rcases Saved.textual_iff.mp hTextual with ⟨text, hText⟩
      rcases Saved.save_writable_ok hText hWritable with ⟨saved, hSave, _⟩
      exact congrArg Prod.snd hSave
  refine ⟨hDone, ?_, ?_, ?_⟩
  · intro hOk
    rcases hDone.mp hOk with ⟨hTextual, hWritable⟩
    exact Saved.load_saved hFits hTextual hWritable
  · intro fault hFault
    have hNot : ¬ (c.Textual ∧ Writable home t) := by
      intro hBoth
      cases (hDone.mpr hBoth).symm.trans hFault
    rcases Saved.save_failed c hPlain hNot with ⟨_, _, hAttempt⟩
    exact spared_attempt hAttempt
  · intro text found hRead hFound
    refine ⟨Saved.load_of_readText hRead hFound, ?_⟩
    rcases Saved.ofText?_fits hFound with ⟨hFoundFits, hTextual⟩
    by_cases hWritable : Writable home t
    · exact Saved.load_saved hFoundFits hTextual hWritable
    · rcases Saved.save_failed found hPlain (fun hBoth => hWritable hBoth.2) with
        ⟨_, _, hAttempt⟩
      exact Saved.load_of_readText (readText_spared hPlain (spared_attempt hAttempt) hRead) hFound

/-!
## A directory in the way

A directory has the name of the configuration.  It is spared, and with another home the same is
saved.
-/

def occupiedTree : FileTree :=
  ⟨ [ (["notes", "config.json", ".coldplunge", "home"], .file "\"kept\"".toUTF8)
    , (["config.json", ".coldplunge", "home"], .directory)
    , ([".coldplunge", "home"], .directory)
    , (["home"], .directory) ] ⟩

def quoted : Saved :=
  { sensors := some "a\\b \"c\"\n", databasePath := some "/tub/rows.db"
    leakInterval := some 18446744073709551615, leakPin := some 4294967295 }

theorem saved_round_trip_law_occupied :
    Plain "/home" occupiedTree ∧ Plain "/other" occupiedTree ∧ quoted.Fits ∧
      (quoted.save "/home" occupiedTree).2 = .error (.io .isDirectory) ∧
      Spared "/home" occupiedTree (quoted.save "/home" occupiedTree).1 ∧
      (quoted.save "/other" occupiedTree).2 = .ok () ∧
      Saved.load "/other" (quoted.save "/other" occupiedTree).1 = quoted := by
  have hLinkless : forall place, occupiedTree.NotLink place :=
    FileTree.linkless_of_rows (by simp [occupiedTree])
  have hPlain := plain_of_linkless hLinkless "/home"
  have hOther := plain_of_linkless hLinkless "/other"
  have hFits : quoted.Fits := by
    constructor <;> simp [quoted]
  have hFails : (quoted.save "/home" occupiedTree).2 = .error (.io .isDirectory) := by decide +kernel
  have hSaved : (quoted.save "/other" occupiedTree).2 = .ok () := by decide +kernel
  exact ⟨hPlain, hOther, hFits, hFails,
    (saved_round_trip_law hPlain hFits).2.2.1 _ hFails, hSaved,
    (saved_round_trip_law hOther hFits).2.1 hSaved⟩

end Settings
end TubMonitor
