/-!
# Spans of source

`Span` is a run of source text: the byte offset where it starts and its length in bytes.

* `Span.through` covers two spans and what lies between them;
* `Span.ofBounds` makes a span of two bounds, either of which may be open, and a limit that
  stands for an open end.
-/

namespace Offside

/-- A run of source text, in bytes. -/
structure Span where
  /-- The offset of the first byte. -/
  start : Nat
  /-- The number of bytes. -/
  length : Nat
  deriving DecidableEq, Inhabited

namespace Span

/-- The offset just past the last byte. -/
def stop (s : Span) : Nat := s.start + s.length

/-- The span without bytes at `offset`. -/
def emptyAt (offset : Nat) : Span := ⟨offset, 0⟩

/-- The span from `start` up to `stop`, empty when `stop` comes first. -/
def between (start stop : Nat) : Span := ⟨start, stop - start⟩

/-- The span from the start of `s` to the end of `t`, empty when `t` ends before `s` starts. -/
def through (s t : Span) : Span := between s.start (max t.stop s.start)

@[simp] theorem stop_mk (start length : Nat) : (⟨start, length⟩ : Span).stop = start + length := rfl

theorem start_le_stop (s : Span) : s.start ≤ s.stop := Nat.le_add_right ..

@[simp] theorem start_emptyAt (offset : Nat) : (emptyAt offset).start = offset := rfl

@[simp] theorem stop_emptyAt (offset : Nat) : (emptyAt offset).stop = offset := rfl

@[simp] theorem start_between (start stop : Nat) : (between start stop).start = start := rfl

theorem stop_between (start stop : Nat) : (between start stop).stop = max start stop := by
  simp only [between, stop_mk]
  omega

@[simp] theorem start_through (s t : Span) : (s.through t).start = s.start := rfl

theorem stop_through (s t : Span) : (s.through t).stop = max t.stop s.start := by
  rw [through, stop_between]
  omega

/-! ### Spans from bounds -/

/-- One end of a range of offsets. -/
inductive Bound where
  /-- No offset bounds this end. -/
  | unbounded
  /-- The offset itself belongs to the range. -/
  | included (offset : Nat)
  /-- The range stops short of the offset. -/
  | excluded (offset : Nat)
  deriving DecidableEq

/-- The first offset of a range with this lower bound. -/
def Bound.first : Bound → Nat
  | unbounded => 0
  | included n => n
  | excluded n => n + 1

/-- The offset past a range with this upper bound; an open range ends at `limit`. -/
def Bound.past (limit : Nat) : Bound → Nat
  | unbounded => limit
  | included n => n + 1
  | excluded n => n

/-- The span of the offsets within two bounds. -/
def ofBounds (lower upper : Bound) (limit : Nat) : Span := between lower.first (upper.past limit)

end Span

end Offside
