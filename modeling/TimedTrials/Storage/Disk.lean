/-
  TimedTrials/Storage/Disk.lean
  =============================
  **The operations that leave something in a tree, with failures of their own.**

  A disk may be full, slow or gone, and what it was asked for may then be done in part. So an
  operation of a disk has an outcome and leaves a tree. What it leaves after a failure is not said.
  Its success is: the tree is then what the same operation makes of it as a value. The plain disk
  fails where the tree does and nowhere else, and leaves the tree as it was.
-/
import TimedTrials.Storage.Tree

namespace TimedTrials

/-- Making directories and writing files, where each operation may fail. What is reported to have
    been done is what the tree's own operation does. -/
structure Disk where
  makeDirectories : Storage → String → Except StorageError Unit × Storage
  write : Storage → String → ByteArray → Except StorageError Unit × Storage
  of_makeDirectories : ∀ {s s' path}, makeDirectories s path = (.ok (), s') →
    s.makeDirectories path = .ok s'
  of_write : ∀ {s s' path content}, write s path content = (.ok (), s') →
    s.write path content = .ok s'

namespace Disk

/-- What an operation of a tree leaves: the tree as it was when it fails. -/
def leave (s : Storage) : Except StorageError Storage → Except StorageError Unit × Storage
  | .ok s' => (.ok (), s')
  | .error e => (.error e, s)

theorem leave_eq_ok {s s' : Storage} {result : Except StorageError Storage}
    (h : leave s result = (.ok (), s')) : result = .ok s' := by
  cases result with
  | error e => cases h
  | ok after =>
    cases h
    rfl

def plain : Disk where
  makeDirectories s path := leave s (s.makeDirectories path)
  write s path content := leave s (s.write path content)
  of_makeDirectories := leave_eq_ok
  of_write := leave_eq_ok

end Disk

end TimedTrials
