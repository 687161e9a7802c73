import TubMonitor.Proofs.FileTree.Writing
import TubMonitor.Proofs.Store.Agreement
import TubMonitor.Store.Filed

/-!
# Two stores that agree

The store in memory and the store in a database answer the same requests alike, and so does a
database in a file that is closed and opened again in between.  A file that has been opened can
be opened again: the way to it is there, and it holds what was left in it.
-/

namespace TubMonitor
namespace Store

/-!
## Opening again
-/

theorem isDatabaseFile_mark : Database.isDatabaseFile ⟨Database.fileMark.toArray⟩ = true := by
  decide

theorem openFile_again {t opened : FileTree} {path : OsText}
    (h : Database.openFile t path = (opened, .ok ())) :
    Database.openFile opened path = (opened, .ok ()) := by
  unfold Database.openFile at h
  cases hHoused : t.ensureDirectories (FileTree.parentNames path) with
  | error fault => simp [hHoused] at h
  | ok housed =>
      cases hResolve : housed.resolve path with
      | error fault => simp [hHoused, hResolve] at h
      | ok place =>
          cases hNode : housed.node? place with
          | none =>
              have hFree : housed.isDirectory place = false := by
                simp [FileTree.isDirectory, hNode]
              have hGuides := FileTree.guides_put_file ⟨Database.fileMark.toArray⟩ hFree
                (FileTree.resolve_notLink hResolve)
              have hThere := FileTree.ensureDirectories_again hHoused hGuides
              have hFile := FileTree.node?_put_self housed (FileTree.top_of_not_isDirectory hFree)
                (.file ⟨Database.fileMark.toArray⟩)
              simp only [hHoused, hResolve, hNode, Prod.mk.injEq, and_true] at h
              subst h
              simp [Database.openFile, hThere, FileTree.resolve_guides hGuides hResolve, hFile,
                isDatabaseFile_mark]
          | some node =>
              cases node with
              | directory => simp [hHoused, hResolve, hNode] at h
              | link target => simp [hHoused, hResolve, hNode] at h
              | file bytes =>
                  simp only [hHoused, hResolve, hNode] at h
                  split at h
                  · next hMarked =>
                      simp only [Prod.mk.injEq, and_true] at h
                      subst h
                      have hThere := FileTree.ensureDirectories_again hHoused
                        (FileTree.guides_self housed)
                      simp [Database.openFile, hThere, hResolve, hNode, hMarked]
                  · simp at h

namespace Filed

def Stands (f : Filed) : Prop :=
  Database.openFile f.tree f.path = (f.tree, .ok ())

theorem load_stands {t : FileTree} {path : OsText} {tables : Tables} {f : Filed}
    (h : (load t path tables).2 = .ok f) : f.Stands ∧ f.database = tables.complete := by
  unfold load at h
  split at h
  · next opened hOpened =>
      cases h
      exact ⟨openFile_again hOpened, rfl⟩
  · cases h

/-- What had been left is found when the file is opened again. -/
theorem reopen_same {f : Filed} (h : f.Stands) : f.reopen = (f.tree, .ok f) := by
  rw [reopen, load, h]
  rfl

end Filed

/-!
## Requests one after the other
-/

def answers (s : Store) : List Asked -> List Answer
  | [] => []
  | a :: rest => (s.answer a.now a.request).1 :: (s.answer a.now a.request).2.answers rest

theorem alike_answers {s t : Store} {requests : List Asked} (h : Alike s t)
    (hDated : forall a, a ∈ requests -> a.IsDated) : s.answers requests = t.answers requests := by
  induction requests generalizing s t with
  | nil => rfl
  | cons a rest ih =>
      have hAnswer := alike_answer h (hDated a (List.mem_cons_self ..))
      have hRest := ih hAnswer.2 fun other hMem => hDated other (List.mem_cons_of_mem _ hMem)
      rw [answers, answers, hAnswer.1, hRest]

namespace Filed

/-- What is done with a file: it is asked, or closed and opened again. -/
inductive Use where
  | request (a : Asked)
  | reopen

def Use.asked? : Use -> Option Asked
  | request a => some a
  | reopen => none

/-- What the requests are answered, unless the file cannot be opened again. -/
def answers (f : Filed) : List Use -> Except Fault (List Answer)
  | [] => .ok []
  | .request a :: rest =>
      let (answer, database) := f.database.answer a.now a.request
      (answers { f with database } rest).map fun later => answer :: later
  | .reopen :: rest =>
      match f.reopen.2 with
      | .ok again => answers again rest
      | .error fault => .error fault

theorem answers_reopened {f : Filed} (h : f.Stands) (uses : List Use) :
    f.answers uses = .ok (Store.answers (.database f.database) (uses.filterMap Use.asked?)) := by
  induction uses generalizing f with
  | nil => rfl
  | cons use rest ih =>
      cases use with
      | request a =>
          have hStill : Stands { f with database := (f.database.answer a.now a.request).2 } := h
          rw [answers]
          dsimp only
          rw [ih hStill]
          rfl
      | reopen =>
          rw [answers, reopen_same h]
          exact ih h

end Filed

def lateInstant : Time.Instant :=
  ⟨253402300859, 1500000000⟩

def earlyInstant : Time.Instant :=
  ⟨-62167219201, 7⟩

def threeOpenings : List Filed.Use :=
  [ .request ⟨earlyInstant, .startEntry lateInstant 20⟩
  , .reopen
  , .request ⟨lateInstant, .stopEntry 1⟩
  , .request ⟨earlyInstant, .setStatus 2 "Completed"⟩
  , .request ⟨earlyInstant, .createRecord earlyInstant⟩
  , .reopen
  , .request ⟨lateInstant, .clearRecord 1⟩
  , .request ⟨earlyInstant, .clearRecord 1⟩
  , .request ⟨earlyInstant, .saveSample none none⟩
  , .request ⟨earlyInstant, .latestEntry⟩
  , .request ⟨earlyInstant, .latestRecord⟩ ]

def askedThen : List Asked :=
  threeOpenings.filterMap Filed.Use.asked?

end Store
end TubMonitor
