import TubMonitor.Store.Database

/-!
# A database in a file

While a file is closed its tables stand in it as they were left.  Whoever opens it makes
the tables that it has not got and leaves the others as they are.
-/

namespace TubMonitor
namespace Store

structure Tables where
  samples : Option Table := none
  entries : Option Table := none
  records : Option Table := none

def Tables.complete (t : Tables) : Database :=
  ⟨t.samples.getD .empty, t.entries.getD .empty, t.records.getD .empty⟩

def Database.tables (d : Database) : Tables :=
  ⟨some d.samples, some d.entries, some d.records⟩

structure Filed where
  path : OsText
  tree : FileTree
  database : Database

namespace Filed

/-- The tree is answered as it is afterwards, also where the file cannot be opened. -/
def load (t : FileTree) (path : OsText) (tables : Tables) : FileTree × Except Fault Filed :=
  match Database.openFile t path with
  | (opened, .ok ()) => (opened, .ok ⟨path, opened, tables.complete⟩)
  | (left, .error fault) => (left, .error fault)

def reopen (f : Filed) : FileTree × Except Fault Filed :=
  load f.tree f.path f.database.tables

end Filed
end Store
end TubMonitor
