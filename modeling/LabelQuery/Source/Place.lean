/-
Places in a text. A place is given by the part of the text that remains from it on,
so that it falls between two characters by construction; `offset` turns it into the
number of bytes that precede it.
-/

namespace LabelQuery.Source

/-- The number of bytes of a text in the UTF-8 encoding. -/
def byteLength : (text : List Char) → Nat
  | [] => 0
  | c :: text => c.utf8Size + byteLength text

/-- The number of bytes of `source` that precede the place where `rest` remains. -/
def offset (source rest : List Char) : Nat :=
  byteLength source - byteLength rest

@[simp] theorem byteLength_nil : byteLength [] = 0 := rfl

@[simp] theorem byteLength_cons (c : Char) (text : List Char) :
    byteLength (c :: text) = c.utf8Size + byteLength text := rfl

@[simp] theorem byteLength_append (first second : List Char) :
    byteLength (first ++ second) = byteLength first + byteLength second := by
  induction first with
  | nil => simp
  | cons c first ih =>
    rw [List.cons_append, byteLength_cons, byteLength_cons, ih, Nat.add_assoc]

/-- The bytes counted are those that a string takes. -/
theorem byteLength_toList (text : String) : byteLength text.toList = text.utf8ByteSize := by
  have hlist (cs : List Char) : byteLength cs = (String.ofList cs).utf8ByteSize := by
    induction cs with
    | nil => rfl
    | cons c cs ih =>
      rw [byteLength_cons, ih, String.ofList_cons]
      simp
  rw [hlist, String.ofList_toList]

/-- The offset of a place is the length of what precedes it. -/
@[simp] theorem offset_append (before rest : List Char) :
    offset (before ++ rest) rest = byteLength before := by
  simp [offset]

end LabelQuery.Source
