import Offside.Proofs.LineEnds
import Offside.Proofs.Maximality

/-!
# Cutting a source before a token

A scan stops where it has to, so it does not see what is cut off behind it (`scan_of_front`), with
one exception: an operator may stop before two slashes, and would take the first of them if the
second one were gone.  `Front` is a front of a text that does not come between two slashes at the
beginning of it.

The front of a source up to one of its tokens is no other, and so it falls into the items that stand
before the token (`exists_cut`).
-/

namespace Offside

/-- A front of a text that leaves two slashes at the beginning together. -/
structure Front (text front : List Char) : Prop where
  /-- It is a front. -/
  isPrefix : front <+: text
  /-- It leaves them together. -/
  slashes : ['/', '/'] <+: text → front = [] ∨ ['/', '/'] <+: front

section

variable {p : Char → Bool} {c : Char} {cs ys after run : List Char} {s : Scan}

/-! ### Runs -/

theorem head_of_isPrefix (front : ys <+: after) {d : Char} (h : ys.head? = some d) :
    after.head? = some d := by
  obtain ⟨tail, rfl⟩ := front
  simp [h]

theorem takeWhile_run (inside : ∀ d ∈ run, p d = true) (stop : ∀ d ∈ ys.head?, p d = false) :
    (run ++ ys).takeWhile p = run := by
  rw [List.takeWhile_append_of_pos inside]
  cases ys with
  | nil => simp
  | cons d ds => simp [stop d rfl]

theorem dropWhile_run (inside : ∀ d ∈ run, p d = true) (stop : ∀ d ∈ ys.head?, p d = false) :
    (run ++ ys).dropWhile p = ys := by
  rw [List.dropWhile_append_of_pos inside]
  cases ys with
  | nil => rfl
  | cons d ds => rw [List.dropWhile_cons_of_neg (by simp [stop d rfl])]

/-- A run of a class of characters does not see what is cut off behind it. -/
theorem takeWhile_of_isPrefix (split : cs = cs.takeWhile p ++ after) (front : ys <+: after) :
    (cs.takeWhile p ++ ys).takeWhile p = cs.takeWhile p :=
  takeWhile_run (fun _ => List.mem_takeWhile_imp) fun d hd =>
    not_of_takeWhile_append split d (head_of_isPrefix front hd)

theorem operatorRun_append_of_stop (front : operatorRun cs ++ ys <+: cs)
    (stop : operatorRun ys = []) : operatorRun (operatorRun cs ++ ys) = operatorRun cs := by
  induction cs with
  | nil => exact stop
  | cons d ds ih =>
    rw [operatorRun] at front ⊢
    split
    · next more =>
      rw [if_pos more, List.cons_append, List.prefix_cons_inj] at front
      have here : (isOperatorChar d &&
          !(d == '/' && (operatorRun ds ++ ys).head? == some '/')) = true := by
        simp only [Bool.and_eq_true, Bool.not_eq_true', Bool.and_eq_false_imp, beq_iff_eq,
          beq_eq_false_iff_ne] at more ⊢
        exact ⟨more.1, fun slash next => more.2 slash (head_of_isPrefix front next)⟩
      rw [List.cons_append, operatorRun, if_pos here, ih front]
    · exact stop

/-- A run of operator characters does not see what is cut off behind it, if that leaves the slashes
of a comment together. -/
theorem operatorRun_of_front (split : cs = operatorRun cs ++ after) (front : Front after ys) :
    operatorRun (operatorRun cs ++ ys) = operatorRun cs := by
  refine operatorRun_append_of_stop ?_ ?_
  · conv => rhs; rw [split]
    exact (List.prefix_append_right_inj _).2 front.isPrefix
  · cases ys with
    | nil => rfl
    | cons d ds =>
      rw [operatorRun]
      split
      · next more =>
        simp only [Bool.and_eq_true, Bool.not_eq_true', Bool.and_eq_false_imp, beq_iff_eq,
          beq_eq_false_iff_ne] at more
        -- The run stopped before an operator character, so at a comment, which is here still.
        have first := head_of_isPrefix front.isPrefix (d := d) rfl
        obtain ⟨tail, both⟩ := (front.slashes
          (comment_of_operatorRun_append split d first more.1)).resolve_left (by simp)
        obtain ⟨rfl, rfl⟩ := List.cons.inj both
        exact absurd rfl (more.2 rfl)
      · rfl

/-- A number does not see what is cut off behind it. -/
theorem numberRun_of_isPrefix (split : cs = numberRun cs ++ after) (front : ys <+: after) :
    numberRun (numberRun cs ++ ys) = numberRun cs := by
  obtain ⟨digit, point⟩ := not_digit_of_numberRun_append split
  have stop : ∀ d ∈ ys.head?, d.isDigit = false :=
    fun d hd => digit d (head_of_isPrefix front hd)
  have inside : ∀ d ∈ cs.takeWhile Char.isDigit, d.isDigit = true :=
    fun _ => List.mem_takeWhile_imp
  have bare (whole : '.' ∉ numberRun cs) (same : numberRun cs = cs.takeWhile Char.isDigit) :
      numberRun (numberRun cs ++ ys) = numberRun cs := by
    rw [same, numberRun, takeWhile_run inside stop, dropWhile_run inside stop]
    split
    · next d ds =>
      obtain ⟨tail, rfl⟩ := front
      rw [if_neg (by simp [point whole d (ds ++ tail) rfl]), List.append_nil]
    · rw [List.append_nil]
  have none : '.' ∉ cs.takeWhile Char.isDigit := fun mem => absurd (inside '.' mem) (by decide)
  cases fraction : cs.dropWhile Char.isDigit with
  | nil =>
    have same : numberRun cs = cs.takeWhile Char.isDigit := by simp [numberRun, fraction]
    exact bare (same ▸ none) same
  | cons e es =>
    by_cases both : e = '.' ∧ ∃ d ds, es = d :: ds ∧ d.isDigit = true
    · obtain ⟨rfl, d, ds, rfl, digit⟩ := both
      have same : numberRun cs =
          cs.takeWhile Char.isDigit ++ '.' :: (d :: ds).takeWhile Char.isDigit := by
        simp only [numberRun, fraction, if_pos digit]
      have decimals : ((d :: ds).takeWhile Char.isDigit ++ ys).takeWhile Char.isDigit =
          (d :: ds).takeWhile Char.isDigit := takeWhile_run (fun _ => List.mem_takeWhile_imp) stop
      rw [same, List.append_assoc, List.cons_append, numberRun,
        takeWhile_run inside (by simp), dropWhile_run inside (by simp)]
      rw [List.takeWhile_cons_of_pos digit, List.cons_append] at decimals ⊢
      simp only [if_pos digit, decimals]
    · have same : numberRun cs = cs.takeWhile Char.isDigit := by
        rw [numberRun, fraction]
        split
        · next d ds hd =>
          obtain ⟨rfl, rfl⟩ := List.cons.inj hd
          rw [if_neg fun digit => both ⟨rfl, d, ds, rfl, digit⟩, List.append_nil]
        · exact List.append_nil _
      exact bare (same ▸ none) same

/-! ### Scans -/

/-- A text in quotes does not see what is cut off behind it. -/
theorem scanText_of_isPrefix (front : (scanText cs).written ++ ys <+: cs) :
    scanText ((scanText cs).written ++ ys) = scanText cs := by
  fun_induction scanText cs with
  | case1 =>
    obtain rfl : ys = [] := List.prefix_nil.1 front
    rfl
  | case2 cs =>
    cases ys with
    | nil => rfl
    | cons d ds =>
      obtain ⟨rfl, -⟩ := List.cons_prefix_cons.1 front
      rfl
  | case3 cs => simp [TextScan.written, scanText]
  | case4 =>
    obtain rfl : ys = [] := by simpa [TextScan.written] using front
    rfl
  | case5 c cs d escapes ih =>
    rw [TextScan.written_cons, List.append_assoc] at front ⊢
    have inner := (List.prefix_append_right_inj ['\\', c]).1 front
    rw [List.cons_append, List.singleton_append, scanText, escapes]
    dsimp only
    rw [ih inner]
  | case6 c cs none => exact scanText_badEscape none ys
  | case7 c cs newline quote alone escape ih =>
    have backslash : c ≠ '\\' := by
      rintro rfl
      cases cs with
      | nil => exact alone rfl rfl
      | cons d ds => exact escape d ds rfl rfl
    rw [TextScan.written_cons, List.append_assoc] at front ⊢
    have inner := (List.prefix_append_right_inj [c]).1 front
    rw [List.singleton_append, scanText_cons newline quote backslash, ih inner]

theorem scanGeneric_of_isPrefix (split : '\x27' :: cs = (scanGeneric cs).consumed ++ after)
    (front : ys <+: after) : ∃ cs', '\x27' :: cs' = (scanGeneric cs).consumed ++ ys ∧
      scanGeneric cs' = scanGeneric cs := by
  cases cs with
  | nil =>
    obtain rfl : after = [] := (List.cons.inj split).2.symm
    obtain rfl : ys = [] := List.prefix_nil.1 front
    exact ⟨[], rfl, rfl⟩
  | cons d ds =>
    by_cases start : Unicode.isNameStart d = true
    · rw [scanGeneric, if_pos start] at split ⊢
      have run := takeWhile_of_isPrefix (List.cons.inj (List.cons.inj split).2).2 front
      refine ⟨d :: (ds.takeWhile Unicode.isNameContinue ++ ys), rfl, ?_⟩
      rw [scanGeneric, if_pos start, run]
    · rw [scanGeneric, if_neg start] at split ⊢
      obtain rfl : d :: ds = after := (List.cons.inj split).2
      refine ⟨ys, rfl, ?_⟩
      cases ys with
      | nil => rfl
      | cons e es =>
        obtain ⟨rfl, -⟩ := List.cons_prefix_cons.1 front
        rw [scanGeneric, if_neg start]

theorem scanPlain_of_front (split : c :: cs = (scanPlain c cs).consumed ++ after)
    (front : Front after ys) :
    ∃ cs', c :: cs' = (scanPlain c cs).consumed ++ ys ∧ scanPlain c cs' = scanPlain c cs := by
  unfold scanPlain at split ⊢
  split at split
  · exact ⟨ys, rfl, rfl⟩
  split at split
  · next comma => exact ⟨ys, by rw [if_pos comma]; rfl, by simp only [if_pos comma]⟩
  next comma =>
  simp only [if_neg comma]
  split at split
  · next digit =>
    have run := numberRun_of_isPrefix (List.cons.inj split).2 front.isPrefix
    simp only [if_pos digit]
    exact ⟨numberRun cs ++ ys, rfl, by rw [run]⟩
  next digit =>
  simp only [if_neg digit]
  split at split
  · next operator =>
    have run := operatorRun_of_front (List.cons.inj split).2 front
    simp only [if_pos operator]
    exact ⟨operatorRun cs ++ ys, rfl, by rw [run]⟩
  next operator =>
  simp only [if_neg operator]
  split at split
  · next start =>
    have run := takeWhile_of_isPrefix (List.cons.inj split).2 front.isPrefix
    simp only [if_pos start]
    exact ⟨cs.takeWhile Unicode.isNameContinue ++ ys, rfl, by rw [run]⟩
  · next start => exact ⟨ys, by rw [if_neg start]; rfl, by simp only [if_neg start]⟩

/-- A blank stays a blank whatever is cut off behind it. -/
theorem scan_of_isPrefix_blank (h : scan c cs = none) (front : ys <+: cs) : scan c ys = none := by
  obtain ⟨blank, newline⟩ := blank_of_scan_eq_none h
  have apart : ¬(c = '\r' ∧ ys.head? = some '\n') := by
    rintro ⟨rfl, next⟩
    simp [scan, head_of_isPrefix front next] at h
  rw [scan, if_neg newline, if_neg apart, if_pos blank]

/-- What is scanned where neither a blank nor a comment begins. -/
theorem scan_of_solid (solid : Unicode.isBlank c = false)
    (apart : ¬(c = '/' ∧ cs.head? = some '/')) : scan c cs = some
      (if c = '"' then (scanText cs).toScan else if c = '\x27' then scanGeneric cs
        else scanPlain c cs) := by
  have newline : c ≠ '\n' := by
    rintro rfl
    cases solid
  have feed : ¬(c = '\r' ∧ cs.head? = some '\n') := by
    rintro ⟨rfl, -⟩
    cases solid
  rw [scan, if_neg newline, if_neg feed, if_neg (by simp [solid]), if_neg apart]
  split
  · rfl
  split <;> rfl

/-- **A scan does not see what is cut off behind it**, if that leaves the slashes of a comment
together. -/
theorem scan_of_front (h : scan c cs = some s) (split : c :: cs = s.consumed ++ after)
    (front : Front after ys) : ∃ cs', c :: cs' = s.consumed ++ ys ∧ scan c cs' = some s := by
  by_cases blank : Unicode.isBlank c = true
  · rcases newline_of_scan h (newline_of_blank h blank) with ⟨rfl, rfl⟩ | ⟨rfl, next, rfl⟩
    · exact ⟨ys, rfl, rfl⟩
    · exact ⟨'\n' :: ys, rfl, rfl⟩
  by_cases slashes : c = '/' ∧ cs.head? = some '/'
  · obtain ⟨rfl, next⟩ := slashes
    obtain ⟨ds, rfl⟩ := List.head?_eq_some_iff.1 next
    obtain rfl := Option.some.inj h
    have run := takeWhile_of_isPrefix (List.cons.inj split).2 front.isPrefix
    let line : List Char := ('/' :: ds).takeWhile fun d => d ≠ '\r' ∧ d ≠ '\n'
    have scanned : scan '/' (line ++ ys) = some (.token .comment
      ('/' :: (line ++ ys).takeWhile fun d => d ≠ '\r' ∧ d ≠ '\n')) := rfl
    exact ⟨line ++ ys, rfl, by rw [scanned, run]⟩
  have solid := Bool.eq_false_iff.2 blank
  rw [scan_of_solid solid slashes, Option.some.injEq] at h
  have found : ∃ cs', c :: cs' = s.consumed ++ ys ∧
      (if c = '"' then (scanText cs').toScan else if c = '\x27' then scanGeneric cs'
        else scanPlain c cs') = s := by
    split at h
    · next quote =>
      subst h
      rw [TextScan.consumed_toScan] at split ⊢
      have shorter : (scanText cs).written ++ ys <+: cs := by
        conv => rhs; rw [(List.cons.inj split).2]
        exact (List.prefix_append_right_inj _).2 front.isPrefix
      exact ⟨(scanText cs).written ++ ys, by rw [quote]; rfl,
        by rw [if_pos quote, scanText_of_isPrefix shorter]⟩
    next quote =>
    split at h
    · next generic =>
      subst h
      rw [generic] at split ⊢
      obtain ⟨cs', joined, same⟩ := scanGeneric_of_isPrefix split front.isPrefix
      exact ⟨cs', joined, by rw [same]; rfl⟩
    · next generic =>
      subst h
      obtain ⟨cs', joined, same⟩ := scanPlain_of_front split front
      exact ⟨cs', joined, by rw [if_neg quote, if_neg generic, same]⟩
  obtain ⟨cs', joined, same⟩ := found
  have shorter : cs' <+: cs := by
    rw [← List.prefix_cons_inj c, split, joined]
    exact (List.prefix_append_right_inj _).2 front.isPrefix
  have apart : ¬(c = '/' ∧ cs'.head? = some '/') :=
    fun both => slashes ⟨both.1, head_of_isPrefix shorter both.2⟩
  exact ⟨cs', joined, by rw [scan_of_solid solid apart, same]⟩

/-! ### Items -/

theorem front_nil (text : List Char) : Front text [] := ⟨List.nil_prefix, fun _ => .inl rfl⟩

/-- A blank and a front of what follows it. -/
theorem Front.blank {text : List Char} (h : scan c text = none) (front : ys <+: text) :
    Front (c :: text) (c :: ys) := by
  refine ⟨(List.prefix_cons_inj c).2 front, fun both => ?_⟩
  obtain ⟨rfl, -⟩ := List.cons_prefix_cons.1 both
  cases (blank_of_scan_eq_none h).1

/-- What is scanned and a front of what follows it. -/
theorem Front.scan (h : scan c cs = some s) (split : c :: cs = s.consumed ++ after)
    (front : ys <+: after) : Front (c :: cs) (s.consumed ++ ys) := by
  refine ⟨?_, fun both => .inr ?_⟩
  · rw [split]
    exact (List.prefix_append_right_inj _).2 front
  · obtain ⟨tail, both⟩ := both
    obtain ⟨rfl, rfl⟩ := List.cons.inj both
    -- Two slashes begin a comment, which takes both.
    obtain rfl := Option.some.inj h
    exact List.prefix_append ['/', '/'] _

/-- **The front of a source before one of its tokens** falls into the items that stand before the
token. -/
theorem exists_cut {p : Position} {text : List Char} {front back : List Item} {item : Item}
    {t : Token} (split : itemsFrom p text = front ++ item :: back)
    (lexeme : item.lexeme = .token t) : ∃ before, Front text before ∧
      item.position = p.advanceAll before ∧ itemsFrom p before = front := by
  induction text using scan_induction generalizing p front with
  | nil =>
    rw [itemsFrom_nil] at split
    simp at split
  | blank c cs hs ih =>
    rw [itemsFrom_of_blank hs] at split
    obtain ⟨before, isFront, position, rfl⟩ := ih split
    have shorter : scan c before = none := scan_of_isPrefix_blank hs isFront.isPrefix
    exact ⟨c :: before, .blank hs isFront.isPrefix, position, itemsFrom_of_blank shorter⟩
  | item c cs s after hs joined ih =>
    rw [itemsFrom_of_scan hs joined.symm] at split
    cases front with
    | nil =>
      obtain ⟨rfl, -⟩ := List.cons.inj split
      have lead : s.lead = [] := lead_of_token hs lexeme
      exact ⟨[], front_nil _, by rw [Rest.itemOf, lead], itemsFrom_nil p⟩
    | cons i front =>
      obtain ⟨rfl, others⟩ := List.cons.inj split
      obtain ⟨before, isFront, position, rfl⟩ := ih others
      obtain ⟨cs', consumed, scanned⟩ := scan_of_front hs joined.symm isFront
      refine ⟨s.consumed ++ before, .scan hs joined.symm isFront.isPrefix, ?_, ?_⟩
      · rw [position, Position.advanceAll_append]
      · rw [← consumed, itemsFrom_of_scan scanned consumed]

end

/-- A source is cut where one of its tokens begins. -/
theorem exists_cut_items {source : List Char} {front back : List Item} {item : Item} {t : Token}
    (split : items source = front ++ item :: back) (lexeme : item.lexeme = .token t) :
    ∃ before, takeBytes? item.span.start source = some before ∧ items before = front := by
  obtain ⟨before, isFront, position, same⟩ := exists_cut split lexeme
  obtain ⟨after, rfl⟩ := isFront.isPrefix
  refine ⟨before, ?_, same⟩
  have start : item.span.start = byteLength before := by
    rw [Item.span, position, Position.offset_advanceAll]
    exact Nat.zero_add _
  rw [start, takeBytes?_append]

end Offside
