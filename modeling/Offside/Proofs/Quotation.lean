import Offside.Proofs.Concatenation

/-!
# Quoted text tells what it quotes

A character between quotes is written by a letter behind a backslash, by its code point or as it is
(`Quoted.escape_cases`), and no written form is the beginning of another one
(`Quoted.escape_append_inj`).  Nor is there a quote in one but behind a backslash.  So a quoted text
can be told from what follows it, and it has one value (`Quoted.text_append_inj`).
-/

namespace Offside

/-! ### Runs of characters -/

/-- Runs of characters with a property are the same if what follows them does not have it. -/
theorem append_inj_of_run {p : Char → Prop} {as bs xs ys : List Char} (ha : ∀ c ∈ as, p c)
    (hb : ∀ c ∈ bs, p c) (hx : ∀ c ∈ xs.head?, ¬p c) (hy : ∀ c ∈ ys.head?, ¬p c)
    (h : as ++ xs = bs ++ ys) : as = bs ∧ xs = ys := by
  induction as generalizing bs with
  | nil =>
    cases bs with
    | nil => exact ⟨rfl, h⟩
    | cons b bs =>
      obtain rfl : xs = b :: (bs ++ ys) := h
      exact absurd (hb b List.mem_cons_self) (hx b rfl)
  | cons a as ih =>
    cases bs with
    | nil =>
      obtain rfl : a :: (as ++ xs) = ys := h
      exact absurd (ha a List.mem_cons_self) (hy a rfl)
    | cons b bs =>
      obtain ⟨rfl, rest⟩ := List.cons.inj h
      obtain ⟨rfl, rfl⟩ := ih (List.forall_mem_cons.1 ha).2 (List.forall_mem_cons.1 hb).2 rest
      exact ⟨rfl, rfl⟩

/-! ### Numbers in base 16 -/

theorem digitChar_inj {m n : Nat} (hm : m < 16) (hn : n < 16) (h : m.digitChar = n.digitChar) :
    m = n := by
  have all : ∀ m < 16, ∀ n < 16, m.digitChar = n.digitChar → m = n := by decide
  exact all m hm n hn h

theorem toDigits_ne_brace (n : Nat) : ∀ c ∈ Nat.toDigits 16 n, c ≠ '\x7d' := by
  induction n using Nat.base_induction 16 (by decide) with
  | single m hm =>
    rw [Nat.toDigits_of_lt_base hm]
    simp
  | digit m k hk pos ih =>
    rw [← Nat.toDigits_append_toDigits (by decide) pos hk, Nat.toDigits_of_lt_base hk]
    exact List.forall_mem_append.2 ⟨ih, by simp⟩

theorem toDigits_inj {m n : Nat} (h : Nat.toDigits 16 m = Nat.toDigits 16 n) : m = n := by
  induction m using Nat.strongRecOn generalizing n with
  | ind m ih =>
    rw [@Nat.toDigits_eq_if 16 m (by decide), @Nat.toDigits_eq_if 16 n (by decide)] at h
    split at h <;> split at h
    · next hm hn => exact digitChar_inj hm hn (List.singleton_inj.1 h)
    · exact absurd (congrArg List.length h) (by simp [Nat.length_toDigits_pos.ne'])
    · exact absurd (congrArg List.length h) (by simp [Nat.length_toDigits_pos.ne'])
    · next hm hn =>
      -- The last digit tells the remainder, the others tell the quotient.
      obtain ⟨high, low⟩ := List.append_inj' h rfl
      have quotient := ih (m / 16) (by omega) high
      have remainder := digitChar_inj (Nat.mod_lt m (by decide)) (Nat.mod_lt n (by decide))
        (List.singleton_inj.1 low)
      omega

namespace Quoted

/-! ### Characters between quotes -/

/-- How a character is written between double quotes. -/
theorem escape_cases (c : Char) :
    (∃ letter, escape '"' c = ['\\', letter] ∧ unescape letter = some c) ∨
    escape '"' c = '\\' :: 'u' :: '\x7b' :: (Nat.toDigits 16 c.toNat ++ ['\x7d']) ∨
    escape '"' c = [c] ∧ c ≠ '\\' ∧ c ≠ '"' := by
  unfold escape
  split
  · next h => exact .inl ⟨'0', rfl, by rw [h]; rfl⟩
  split
  · next h => exact .inl ⟨'t', rfl, by rw [h]; rfl⟩
  split
  · next h => exact .inl ⟨'n', rfl, by rw [h]; rfl⟩
  split
  · next h => exact .inl ⟨'r', rfl, by rw [h]; rfl⟩
  split
  · next h => exact .inl ⟨c, rfl, by rcases h with rfl | rfl <;> rfl⟩
  split
  · exact .inr (.inl rfl)
  · next h _ => exact .inr (.inr ⟨rfl, not_or.1 h⟩)

/-- **No written form is the beginning of another one.** -/
theorem escape_append_inj {c d : Char} {xs ys : List Char}
    (h : escape '"' c ++ xs = escape '"' d ++ ys) : c = d ∧ xs = ys := by
  have letter_ne {l e : Char} (hl : unescape l = some e) : l ≠ 'u' := by
    rintro rfl
    cases hl
  rcases escape_cases c with ⟨l, hc, hl⟩ | hc | ⟨hc, plain, -⟩ <;>
    rcases escape_cases d with ⟨l', hd, hl'⟩ | hd | ⟨hd, plain', -⟩ <;>
    rw [hc, hd] at h <;> simp only [List.cons_append, List.nil_append, List.cons.injEq] at h
  -- Forms of two kinds differ in the first character, or in the one behind the backslash.
  · obtain ⟨-, rfl, rfl⟩ := h
    exact ⟨Option.some.inj (hl.symm.trans hl'), rfl⟩
  · exact absurd h.2.1 (letter_ne hl)
  · exact absurd h.1.symm plain'
  · exact absurd h.2.1.symm (letter_ne hl')
  · -- Two code points end at their closing braces.
    obtain ⟨-, -, -, h⟩ := h
    rw [List.append_assoc, List.append_assoc] at h
    obtain ⟨digits, h⟩ := append_inj_of_run (p := (· ≠ '\x7d')) (toDigits_ne_brace _)
      (toDigits_ne_brace _) (by simp) (by simp) h
    exact ⟨Char.toNat_inj.1 (toDigits_inj digits), (List.cons.inj h).2⟩
  · exact absurd h.1.symm plain'
  · exact absurd h.1 plain
  · exact absurd h.1 plain
  · exact h

/-- A written form does not begin with a quote. -/
theorem escape_append_ne_quote (c : Char) (xs ys : List Char) :
    escape '"' c ++ xs ≠ '"' :: ys := by
  intro h
  rcases escape_cases c with ⟨l, hc, -⟩ | hc | ⟨hc, -, plain⟩ <;> rw [hc] at h <;>
    simp only [List.cons_append, List.cons.injEq] at h
  · exact absurd h.1 (by decide)
  · exact absurd h.1 (by decide)
  · exact plain h.1

/-! ### Texts -/

theorem flatMap_escape_append_inj {cs ds xs ys : List Char}
    (h : cs.flatMap (escape '"') ++ '"' :: xs = ds.flatMap (escape '"') ++ '"' :: ys) :
    cs = ds ∧ xs = ys := by
  induction cs generalizing ds with
  | nil =>
    cases ds with
    | nil => exact ⟨rfl, (List.cons.inj h).2⟩
    | cons d ds =>
      rw [List.flatMap_cons, List.append_assoc] at h
      exact absurd h.symm (escape_append_ne_quote d _ _)
  | cons c cs ih =>
    cases ds with
    | nil =>
      rw [List.flatMap_cons, List.append_assoc] at h
      exact absurd h (escape_append_ne_quote c _ _)
    | cons d ds =>
      rw [List.flatMap_cons, List.flatMap_cons, List.append_assoc, List.append_assoc] at h
      obtain ⟨rfl, rest⟩ := escape_append_inj h
      obtain ⟨rfl, rfl⟩ := ih rest
      exact ⟨rfl, rfl⟩

/-- **A quoted text has one value**, whatever follows it. -/
theorem text_append_inj {s t : String} {xs ys : List Char} (h : text s ++ xs = text t ++ ys) :
    s = t ∧ xs = ys := by
  simp only [text, enclose, List.cons_append, List.append_assoc, List.cons.injEq, true_and,
    List.nil_append] at h
  obtain ⟨same, rest⟩ := flatMap_escape_append_inj h
  exact ⟨String.toList_inj.1 same, rest⟩

end Quoted

end Offside
