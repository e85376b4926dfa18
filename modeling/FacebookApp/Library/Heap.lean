import Mathlib.Logic.Function.Basic

/-!
# Mutable objects

Objects that code changes in place and shares by reference. References are
never reused, and every reference below `next` is in use.
-/

set_option autoImplicit false

namespace Dart

abbrev Reference := Nat

structure Heap (Object : Type) where
  object : Reference → Object
  next : Reference

namespace Heap

variable {Object : Type}

def empty (object : Object) : Heap Object := ⟨fun _ => object, 0⟩

def allocate (heap : Heap Object) (object : Object) : Heap Object where
  object := Function.update heap.object heap.next object
  next := heap.next + 1

def write (heap : Heap Object) (reference : Reference) (object : Object) : Heap Object :=
  { heap with object := Function.update heap.object reference object }

@[simp] theorem next_allocate (heap : Heap Object) (object : Object) :
    (heap.allocate object).next = heap.next + 1 := rfl

@[simp] theorem object_allocate_next (heap : Heap Object) (object : Object) :
    (heap.allocate object).object heap.next = object := by
  simp [allocate]

theorem object_allocate_of_lt (heap : Heap Object) (object : Object)
    {reference : Reference} (allocated : reference < heap.next) :
    (heap.allocate object).object reference = heap.object reference := by
  simp [allocate, Nat.ne_of_lt allocated]

@[simp] theorem object_write_same (heap : Heap Object) (reference : Reference)
    (object : Object) : (heap.write reference object).object reference = object := by
  simp [write]

end Heap

end Dart
