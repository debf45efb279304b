import Mathlib.Data.List.Basic
/-!
# A lock with many readers or one writer

The holders of a lock, by identity. A reader enters while no writer is inside, a writer while nobody is.
-/
namespace Locks

structure RwLock (ι : Type) where
  readers : List ι
  writer : Option ι

variable {ι : Type}

def RwLock.new : RwLock ι := ⟨[], none⟩

namespace RwLock

variable (l : RwLock ι)

def Exclusive : Prop := l.writer ≠ none → l.readers = []

def CanWrite : Prop := l.writer = none ∧ l.readers = []

instance (l : RwLock ι) : Decidable l.CanWrite := inferInstanceAs (Decidable (_ ∧ _))

variable (i : ι)

def read : RwLock ι := { l with readers := i :: l.readers }

def endRead [DecidableEq ι] (l : RwLock ι) (i : ι) : RwLock ι := { l with readers := l.readers.filter (· ≠ i) }

def write : RwLock ι := { l with writer := some i }

def endWrite : RwLock ι := { l with writer := none }

@[simp] theorem writer_read : (l.read i).writer = l.writer := rfl

@[simp] theorem writer_endRead [DecidableEq ι] (l : RwLock ι) (i : ι) : (l.endRead i).writer = l.writer := rfl

@[simp] theorem writer_write : (l.write i).writer = some i := rfl

@[simp] theorem writer_endWrite : l.endWrite.writer = none := rfl

@[simp] theorem readers_write : (l.write i).readers = l.readers := rfl

@[simp] theorem readers_endWrite : l.endWrite.readers = l.readers := rfl

variable {l : RwLock ι}

@[simp] theorem mem_read {i j : ι} : j ∈ (l.read i).readers ↔ j = i ∨ j ∈ l.readers := List.mem_cons

@[simp] theorem mem_endRead [DecidableEq ι] {i j : ι} : j ∈ (l.endRead i).readers ↔ j ∈ l.readers ∧ j ≠ i := by
  simp [endRead]

theorem exclusive_read (i : ι) (hw : l.writer = none) : (l.read i).Exclusive :=
  fun h => absurd hw h

theorem exclusive_endRead [DecidableEq ι] (i : ι) (h : l.Exclusive) : (l.endRead i).Exclusive := by
  intro hw
  simp [endRead, h hw]

theorem exclusive_write (i : ι) (h : l.CanWrite) : (l.write i).Exclusive := fun _ => h.2

theorem exclusive_endWrite (l : RwLock ι) : l.endWrite.Exclusive := fun h => absurd rfl h

end RwLock
end Locks
