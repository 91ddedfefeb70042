/-!
Windows on the bytes of a font, read as big-endian numbers.

A window shows a stretch of bytes without copying it.  Every reader is total: what does not lie
inside the window is `none`.  `toList` is the view of a window, and `byte?_eq_getElem?` says that
reading goes by it.
-/

namespace TicksAndWidths.Font

/-- A stretch of bytes. -/
structure Window where
  bytes : ByteArray
  /-- Where the stretch begins. -/
  start : Nat
  /-- The number of bytes in it. -/
  size : Nat
  /-- The stretch ends where the bytes end, or before. -/
  inside : start + size ≤ bytes.size

/-- Windows are the same when they show the same stretch of the same bytes. -/
instance : DecidableEq Window := fun a b =>
  decidable_of_decidable_of_iff (p := a.bytes.data = b.bytes.data ∧ a.start = b.start
      ∧ a.size = b.size) <| by
    cases a
    cases b
    simp [ByteArray.ext_iff]

namespace Window

/-- All of the bytes. -/
def ofBytes (bytes : ByteArray) : Window where
  bytes
  start := 0
  size := bytes.size
  inside := by omega

/-- The bytes of a window. -/
def toList (w : Window) : List UInt8 :=
  (w.bytes.data.toList.drop w.start).take w.size

/-! ### Parts of a window -/

/-- The `size` bytes from `start` on. -/
def slice? (w : Window) (start size : Nat) : Option Window :=
  if h : start + size ≤ w.size then
    some { bytes := w.bytes, start := w.start + start, size,
           inside := by have := w.inside; omega }
  else none

/-- Everything from `start` on. -/
def drop? (w : Window) (start : Nat) : Option Window :=
  w.slice? start (w.size - start)

/-! ### Numbers and text -/

/-- The byte at a position. -/
def byte? (w : Window) (i : Nat) : Option UInt8 :=
  if h : i < w.size then
    have := w.inside
    some w.bytes[w.start + i]
  else none

/-- The number of two bytes at a position. -/
def u16? (w : Window) (i : Nat) : Option UInt16 := do
  let high ← w.byte? i
  let low ← w.byte? (i + 1)
  return UInt16.ofNat (256 * high.toNat + low.toNat)

/-- The number of four bytes at a position. -/
def u32? (w : Window) (i : Nat) : Option UInt32 := do
  let high ← w.u16? i
  let low ← w.u16? (i + 2)
  return UInt32.ofNat (65536 * high.toNat + low.toNat)

/-- So many records of `stride` bytes each from a position on, all of them inside the window and
each of them readable. -/
def records? {α : Type} (w : Window) (start count stride : Nat) (read? : Nat → Option α) :
    Option (List α) :=
  if start + count * stride ≤ w.size then
    (List.range count).mapM fun k => read? (start + k * stride)
  else none

/-- So many two-byte numbers from a position on. -/
def u16s? (w : Window) (start count : Nat) : Option (List UInt16) :=
  w.records? start count 2 w.u16?

/-- The bytes of a window, read as UTF-8. -/
def text? (w : Window) : Option String :=
  String.fromUTF8? (w.bytes.extract w.start (w.start + w.size))

/-! ### The view -/

@[simp] theorem length_toList (w : Window) : w.toList.length = w.size := by
  have inside : w.start + w.size ≤ w.bytes.data.size := w.inside
  simp only [toList, List.length_take, List.length_drop, Array.length_toList]
  omega

/-- Reading a byte goes by the view. -/
theorem byte?_eq_getElem? (w : Window) (i : Nat) : w.byte? i = w.toList[i]? := by
  have inside : w.start + w.size ≤ w.bytes.data.size := w.inside
  by_cases h : i < w.size
  · simp only [byte?, h, dite_true, toList, List.getElem?_take, if_true, List.getElem?_drop,
      ByteArray.getElem_eq_getElem_data]
    rw [List.getElem?_eq_getElem (by simp only [Array.length_toList]; omega), Array.getElem_toList]
  · rw [byte?, dif_neg h, List.getElem?_eq_none (by rw [length_toList]; omega)]

@[simp] theorem toList_ofBytes (bytes : ByteArray) : (ofBytes bytes).toList = bytes.data.toList := by
  exact List.take_of_length_le (Nat.le_of_eq (Array.length_toList ..))

/-- A part of a window shows a part of its bytes. -/
theorem toList_of_slice? {w v : Window} {start size : Nat} (h : w.slice? start size = some v) :
    v.toList = (w.toList.drop start).take size := by
  simp only [slice?] at h
  split at h
  · next fits =>
    cases h
    simp only [toList, List.drop_take, List.drop_drop, List.take_take]
    rw [Nat.min_eq_left (by omega)]
  · cases h

end Window

end TicksAndWidths.Font
