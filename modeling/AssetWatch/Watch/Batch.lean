import AssetWatch.Targets.Matcher

/-!
# Batches of changes

A batch holds the paths of one burst of changes and the categories they affect. Changes that
affect no category leave no trace in it. Batches are merged by union; of two spellings of a
path the first stays.
-/

namespace AssetWatch

structure Batch where
  categories : NameSet := .empty
  paths : PathSet := .empty

namespace Batch

def isEmpty (b : Batch) : Bool := b.categories.isEmpty

def merge (a b : Batch) : Batch :=
  { categories := a.categories.union b.categories, paths := a.paths.union b.paths }

/-- Adds a changed path, if it affects any category. -/
def add (m : Matcher) (b : Batch) (path : Path) : Batch :=
  let categories := m.categoriesFor path
  if categories.isEmpty then b
  else { categories := b.categories.union categories, paths := b.paths.insert path }

/-- The batch of a burst of changes. -/
def ofPaths (m : Matcher) (paths : List Path) : Batch := paths.foldl (add m) {}

end Batch

end AssetWatch
