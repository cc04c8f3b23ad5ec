/-!
# Byte offsets into text

Text is a list of characters, and offsets into it count the bytes of their UTF-8 forms. An
offset may fall inside a character; a slice whose ends do is refused.

* `byteLength` is the length of a text in bytes, additive over `++`;
* `dropBytes?` and `takeBytes?` cut a text at an offset, and `slice?` between two;
* `charsBetween` counts the characters between two offsets, and the bytes where the offsets
  cut no text.
-/

namespace Offside

/-- The number of bytes in the UTF-8 form of a text. -/
def byteLength : List Char → Nat
  | [] => 0
  | c :: cs => c.utf8Size + byteLength cs

@[simp] theorem byteLength_nil : byteLength [] = 0 := rfl

@[simp] theorem byteLength_cons (c : Char) (cs : List Char) :
    byteLength (c :: cs) = c.utf8Size + byteLength cs := rfl

@[simp] theorem byteLength_append (cs ds : List Char) :
    byteLength (cs ++ ds) = byteLength cs + byteLength ds := by
  induction cs with
  | nil => simp
  | cons c cs ih => simp [ih, Nat.add_assoc]

theorem byteLength_ofList (cs : List Char) : byteLength cs = (String.ofList cs).utf8ByteSize := by
  induction cs with
  | nil => simp
  | cons c cs ih =>
    have split : String.ofList (c :: cs) = String.singleton c ++ String.ofList cs := by
      rw [String.singleton_eq_ofList, ← String.ofList_append]
      rfl
    rw [byteLength_cons, ih, split, String.utf8ByteSize_append, String.utf8ByteSize_singleton]

theorem byteLength_toList (s : String) : byteLength s.toList = s.utf8ByteSize := by
  rw [byteLength_ofList, String.ofList_toList]

/-- The text from byte `n` on, if a character (or the end) begins there. -/
def dropBytes? : Nat → List Char → Option (List Char)
  | 0, cs => some cs
  | _ + 1, [] => none
  | n + 1, c :: cs => if c.utf8Size ≤ n + 1 then dropBytes? (n + 1 - c.utf8Size) cs else none

/-- The first `n` bytes of a text, if a character ends there. -/
def takeBytes? : Nat → List Char → Option (List Char)
  | 0, _ => some []
  | _ + 1, [] => none
  | n + 1, c :: cs =>
    if c.utf8Size ≤ n + 1 then (takeBytes? (n + 1 - c.utf8Size) cs).map (c :: ·) else none

/-- The text from byte `start` up to byte `stop`, if both are ends of characters in order. -/
def slice? (cs : List Char) (start stop : Nat) : Option (List Char) :=
  if start ≤ stop then (dropBytes? start cs).bind (takeBytes? (stop - start)) else none

/-- The number of characters from byte `start` up to byte `stop`; where these cut no text, the
number of bytes. -/
def charsBetween (cs : List Char) (start stop : Nat) : Nat :=
  match slice? cs start stop with
  | some slice => slice.length
  | none => stop - start

/-! ### Cutting at the end of a part -/

theorem dropBytes?_append (cs ds : List Char) :
    dropBytes? (byteLength cs) (cs ++ ds) = some ds := by
  induction cs with
  | nil => simp [dropBytes?]
  | cons c cs ih =>
    have hc := c.utf8Size_pos
    obtain ⟨n, hn⟩ : ∃ n, byteLength (c :: cs) = n + 1 := ⟨c.utf8Size + byteLength cs - 1, by
      simp only [byteLength_cons]; omega⟩
    rw [hn, List.cons_append, dropBytes?, ← hn]
    simp [ih]

theorem takeBytes?_append (cs ds : List Char) :
    takeBytes? (byteLength cs) (cs ++ ds) = some cs := by
  induction cs with
  | nil => simp [takeBytes?]
  | cons c cs ih =>
    have hc := c.utf8Size_pos
    obtain ⟨n, hn⟩ : ∃ n, byteLength (c :: cs) = n + 1 := ⟨c.utf8Size + byteLength cs - 1, by
      simp only [byteLength_cons]; omega⟩
    rw [hn, List.cons_append, takeBytes?, ← hn]
    simp [ih]

/-- A part of a text is its slice between the offsets of its ends. -/
theorem slice?_append (before part after : List Char) :
    slice? (before ++ part ++ after) (byteLength before) (byteLength before + byteLength part) =
      some part := by
  simp [slice?, List.append_assoc, dropBytes?_append, takeBytes?_append]

theorem eq_append_of_dropBytes? {n : Nat} {cs ds : List Char} (h : dropBytes? n cs = some ds) :
    ∃ before, cs = before ++ ds ∧ n = byteLength before := by
  fun_induction dropBytes? n cs with
  | case1 => exact ⟨[], Option.some.inj h, rfl⟩
  | case2 => cases h
  | case3 n c cs le ih =>
    obtain ⟨before, rfl, rest⟩ := ih h
    refine ⟨c :: before, rfl, ?_⟩
    rw [byteLength_cons]
    omega
  | case4 => cases h

theorem eq_append_of_takeBytes? {n : Nat} {cs part : List Char}
    (h : takeBytes? n cs = some part) : ∃ after, cs = part ++ after ∧ n = byteLength part := by
  fun_induction takeBytes? n cs generalizing part with
  | case1 cs =>
    obtain rfl := Option.some.inj h
    exact ⟨cs, rfl, rfl⟩
  | case2 => cases h
  | case3 n c cs le ih =>
    obtain ⟨part, found, rfl⟩ := Option.map_eq_some_iff.1 h
    obtain ⟨after, rfl, rest⟩ := ih found
    refine ⟨after, rfl, ?_⟩
    rw [byteLength_cons]
    omega
  | case4 => cases h

/-- What is cut out of a text is a part of it. -/
theorem eq_append_of_slice? {cs part : List Char} {start stop : Nat}
    (h : slice? cs start stop = some part) : ∃ before after, cs = before ++ part ++ after ∧
      start = byteLength before ∧ stop = byteLength before + byteLength part := by
  unfold slice? at h
  split at h
  · next le =>
    obtain ⟨rest, dropped, taken⟩ := Option.bind_eq_some_iff.1 h
    obtain ⟨before, rfl, first⟩ := eq_append_of_dropBytes? dropped
    obtain ⟨after, rfl, length⟩ := eq_append_of_takeBytes? taken
    exact ⟨before, after, (List.append_assoc ..).symm, first, by omega⟩
  · cases h

theorem charsBetween_append (before part after : List Char) :
    charsBetween (before ++ part ++ after) (byteLength before)
      (byteLength before + byteLength part) = part.length := by
  rw [charsBetween, slice?_append]

end Offside
