import Mathlib
import NotificationDispatch.Domain

/-! # Listing: `page` and `limit` from the query string, and `List`'s offset

`parseListFilter` (`internal/api/handler`) reads `page` and `limit` with `strconv.Atoi` and
keeps them when `page > 0` and `0 < limit <= 100`; `pgNotificationRepository.List` computes
`offset := (f.Page - 1) * f.Limit`. Go's `int` is 64 bits wide, so `Page`, `Limit` and the
offset are `BitVec 64`, and the product wraps as `int` multiplication does.

* `Strconv.atoi` follows both paths of `strconv.Atoi`: the loop on `int` for inputs of 1 to 18
  bytes, and `ParseInt(s, 10, 0)` (itself `ParseUint` and a range check) otherwise.
  `Strconv.atoi_eq` says both parse one language, the signed decimals whose value fits an
  `int`, and `Strconv.atoi_toString` that every `int` from 0 to `math.MaxInt64` is read back
  from its decimal.
* `ListFilter.offset_exact_iff`: the offset is `(page - 1) * limit` exactly when that product
  is at most `math.MaxInt64`, and `parseListFilter_page_toString`: every page from 1 to
  `math.MaxInt64` is one some query string asks for. The queries `List` sends with the offset
  are in `ListSql`.
-/

namespace NotificationDispatch
set_option autoImplicit false

namespace Strconv

/-! ## `strconv.Atoi` -/

/-- `math.MaxInt64`. -/
def maxInt : Nat := 9223372036854775807

/-- `1 << 64`: `uint64` arithmetic is modulo this. -/
def uint64Mod : Nat := 18446744073709551616

/-- `ParseUint`'s `cutoff` for base 10 at 64 bits, `maxUint64/10 + 1`. -/
def uintCutoff : Nat := 1844674407370955162

/-- The leading `-` or `+` both parsers strip; `true` for `-`. -/
def sign : List Char → Bool × List Char
  | '-' :: s => (true, s)
  | '+' :: s => (false, s)
  | s => (false, s)

/-- `ch - '0'`. -/
def digit (c : Char) : Nat := c.toNat - 48

/-- The fast path's loop body: after `ch -= '0'`, `ch > 9` refuses, and `n = n*10 + int(ch)`
runs on `int`. -/
def fastStep (n : BitVec 64) (c : Char) : Option (BitVec 64) :=
  if c.isDigit then some (n * 10 + BitVec.ofNat 64 (digit c)) else none

/-- `Atoi`'s fast path, for inputs of 1 to 18 bytes. -/
def atoiFast (s : List Char) : Option (BitVec 64) :=
  match sign s with
  | (neg, ds) =>
    if ds = [] then none
    else (ds.foldlM fastStep 0).map fun n => if neg then -n else n

/-- `ParseUint(s, 10, 64)`'s loop body. A non-digit, an `n` at or past `cutoff` (where `n*10`
would overflow) and a sum `n1 = n*10 + d` that wraps (`n1 < n*10`) are refused; `n1 > maxVal`
cannot hold at 64 bits. -/
def uintStep (n : Nat) (c : Char) : Option Nat :=
  if !c.isDigit then none
  else if uintCutoff ≤ n then none
  else
    let m := n * 10 % uint64Mod
    let n1 := (m + digit c) % uint64Mod
    if n1 < m then none else some n1

/-- `ParseUint(s, 10, 64)`. -/
def parseUint (s : List Char) : Option Nat :=
  if s = [] then none else s.foldlM uintStep 0

/-- `ParseInt(s, 10, 0)` on a 64-bit platform: the sign, `ParseUint` of the rest, then
`cutoff = 1 << 63` bounds the magnitude (`un >= cutoff` is refused, after `-` only
`un > cutoff`). A range error of `ParseUint` leaves `un = maxUint64`, which this refuses too. -/
def parseInt (s : List Char) : Option Int :=
  if s = [] then none
  else match sign s with
    | (neg, ds) => (parseUint ds).bind fun un =>
      if !neg && maxInt + 1 ≤ un then none
      else if neg && maxInt + 1 < un then none
      else some (if neg then -(un : Int) else un)

/-- `strconv.Atoi` with `intSize == 64`; `len(s)` counts bytes. Its caller only asks whether it
failed, so a failure is `none` and the `NumError` is not kept. -/
def atoi (s : String) : Option (BitVec 64) :=
  if 0 < s.utf8ByteSize ∧ s.utf8ByteSize < 19 then atoiFast s.toList
  else (parseInt s.toList).map (BitVec.ofInt 64)

/-! ## What `Atoi` accepts -/

/-- One more decimal digit: `n*10 + d`. -/
def pushDigit (n : Nat) (c : Char) : Nat := n * 10 + digit c

/-- The number a string of digits names. -/
def digitsValue (ds : List Char) : Nat := ds.foldl pushDigit 0

/-- The signed decimal a string spells, if it is one: a sign, then one or more digits. -/
def decimal (s : List Char) : Option Int :=
  match sign s with
  | (neg, ds) =>
    if ds ≠ [] ∧ ds.all Char.isDigit then
      some (if neg then -(digitsValue ds : Int) else digitsValue ds)
    else none

theorem digit_lt {c : Char} (h : c.isDigit = true) : digit c < 10 := by
  simp only [Char.isDigit, Bool.and_eq_true, decide_eq_true_eq] at h
  have h9 : c.val.toNat ≤ 57 := h.2
  unfold digit Char.toNat
  omega

theorem sign_length_le (s : List Char) : (sign s).2.length ≤ s.length := by
  unfold sign
  split <;> simp

theorem sign_of_digits {l : List Char} (h : ∀ c ∈ l, c.isDigit = true) : sign l = (false, l) := by
  unfold sign
  split
  · have := h '-' (List.mem_cons_self _ _); simp at this
  · have := h '+' (List.mem_cons_self _ _); simp at this
  · rfl

theorem le_foldl_pushDigit (ds : List Char) (n : Nat) : n ≤ ds.foldl pushDigit n := by
  induction ds generalizing n with
  | nil => exact Nat.le_refl n
  | cons c ds ih => exact Nat.le_trans (by unfold pushDigit; omega) (ih (pushDigit n c))

/-- Digits after `n` stay below `n + 1` shifted by their number. -/
theorem foldl_pushDigit_lt {ds : List Char} (h : ds.all Char.isDigit = true) (n : Nat) :
    ds.foldl pushDigit n < (n + 1) * 10 ^ ds.length := by
  induction ds generalizing n with
  | nil => simp
  | cons c ds ih =>
    simp only [List.all_cons, Bool.and_eq_true] at h
    have hd := digit_lt h.1
    calc ds.foldl pushDigit (pushDigit n c)
        < (pushDigit n c + 1) * 10 ^ ds.length := ih h.2 _
      _ ≤ (n + 1) * 10 * 10 ^ ds.length := Nat.mul_le_mul_right _ (by unfold pushDigit; omega)
      _ = (n + 1) * 10 ^ (c :: ds).length := by
        rw [List.length_cons, Nat.pow_succ, Nat.mul_assoc, Nat.mul_comm 10]

/-- The fast path's loop computes the digits' value modulo `2^64`. -/
theorem foldlM_fastStep (ds : List Char) (n : Nat) :
    ds.foldlM fastStep (BitVec.ofNat 64 n) =
      if ds.all Char.isDigit then some (BitVec.ofNat 64 (ds.foldl pushDigit n)) else none := by
  induction ds generalizing n with
  | nil => rfl
  | cons c ds ih =>
    by_cases hc : c.isDigit = true
    · have hstep : fastStep (BitVec.ofNat 64 n) c = some (BitVec.ofNat 64 (pushDigit n c)) := by
        have h10 : (10 : BitVec 64).toNat = 10 := rfl
        simp only [fastStep, hc, if_true, Option.some.injEq]
        apply BitVec.eq_of_toNat_eq
        simp only [BitVec.toNat_add, BitVec.toNat_mul, BitVec.toNat_ofNat, h10, pushDigit]
        omega
      simp only [List.foldlM_cons, hstep, Option.bind_eq_bind, Option.some_bind, ih, List.all_cons,
        hc, Bool.true_and, List.foldl_cons]
    · simp [fastStep, hc]

/-- `ParseUint`'s loop body takes one more digit while the value fits `uint64`: `cutoff`
and the wrap check refuse exactly the sums at or past `2^64`. -/
theorem uintStep_eq (n : Nat) (c : Char) :
    uintStep n c =
      if c.isDigit ∧ pushDigit n c < uint64Mod then some (pushDigit n c) else none := by
  unfold uintStep pushDigit
  by_cases hc : c.isDigit = true
  · have hd := digit_lt hc
    simp only [hc, Bool.not_true, Bool.false_eq_true, if_false, true_and]
    unfold uintCutoff uint64Mod
    split_ifs <;> first | rfl | omega | (congr 1; omega)
  · simp [hc]

/-- `ParseUint`'s loop: the digits' value, when every character is a digit and the value fits
`uint64`. -/
theorem foldlM_uintStep (ds : List Char) {n : Nat} (hn : n < uint64Mod) :
    ds.foldlM uintStep n =
      if ds.all Char.isDigit ∧ ds.foldl pushDigit n < uint64Mod then some (ds.foldl pushDigit n)
      else none := by
  induction ds generalizing n with
  | nil => simp [hn]
  | cons c ds ih =>
    have hge := le_foldl_pushDigit ds (pushDigit n c)
    simp only [List.foldlM_cons, uintStep_eq, List.all_cons, Bool.and_eq_true, List.foldl_cons,
      Option.bind_eq_bind]
    by_cases h : c.isDigit = true ∧ pushDigit n c < uint64Mod
    · rw [if_pos h, Option.some_bind, ih h.2]
      simp only [h.1, true_and]
    · rw [if_neg h, Option.none_bind, if_neg]
      rintro ⟨⟨hc, -⟩, hlt⟩
      exact h ⟨hc, by omega⟩

theorem parseUint_eq (ds : List Char) :
    parseUint ds = if ds ≠ [] ∧ ds.all Char.isDigit ∧ digitsValue ds < uint64Mod then
      some (digitsValue ds) else none := by
  unfold parseUint digitsValue
  by_cases hds : ds = []
  · simp [hds]
  · simp only [hds, if_false, ne_eq, not_false_eq_true, true_and]
    exact foldlM_uintStep ds (by unfold uint64Mod; omega)

/-- `ParseInt` accepts the signed decimals that fit an `int`. -/
theorem parseInt_eq (s : List Char) :
    parseInt s = (decimal s).bind fun x =>
      if -(maxInt + 1 : Int) ≤ x ∧ x ≤ maxInt then some x else none := by
  unfold parseInt decimal
  rcases hs : sign s with ⟨neg, ds⟩
  by_cases hnil : s = []
  · subst hnil; cases hs; rfl
  rw [if_neg hnil]
  dsimp only
  rw [parseUint_eq]
  by_cases hd : ds ≠ [] ∧ ds.all Char.isDigit = true
  · rw [if_pos hd, Option.some_bind]
    unfold maxInt
    rcases Nat.lt_or_ge (digitsValue ds) uint64Mod with hr | hr <;> unfold uint64Mod at hr
    · rw [if_pos ⟨hd.1, hd.2, hr⟩, Option.some_bind]
      cases neg <;> simp only [Bool.not_false, Bool.not_true, Bool.true_and, Bool.false_and,
        decide_eq_true_eq, Bool.false_eq_true, ↓reduceIte] <;> split_ifs <;> first | rfl | omega
    · rw [if_neg (fun h => absurd h.2.2 (by unfold uint64Mod; omega)), Option.none_bind]
      cases neg <;> simp only [Bool.false_eq_true, ↓reduceIte] <;> rw [if_neg (by omega)]
  · rw [if_neg (fun h => hd ⟨h.1, h.2.1⟩), if_neg hd]
    rfl

theorem length_le_utf8ByteSize (s : String) : s.toList.length ≤ s.utf8ByteSize := by
  obtain ⟨cs⟩ := s
  show cs.length ≤ String.utf8ByteSize.go cs
  induction cs with
  | nil => exact Nat.le_refl 0
  | cons c cs ih =>
    simp only [String.utf8ByteSize.go, List.length_cons]
    have := c.utf8Size_pos
    omega

theorem ofInt_neg_natCast (v : Nat) : BitVec.ofInt 64 (-(v : Int)) = -BitVec.ofNat 64 v := by
  apply BitVec.eq_of_toNat_eq
  simp only [BitVec.toNat_ofInt, BitVec.toNat_neg, BitVec.toNat_ofNat]
  omega

/-- The fast path accepts the signed decimals of at most 18 characters, all of which fit an
`int`. -/
theorem atoiFast_eq {s : List Char} (hs : s.length ≤ 18) :
    atoiFast s = (decimal s).bind fun x =>
      if -(maxInt + 1 : Int) ≤ x ∧ x ≤ maxInt then some (BitVec.ofInt 64 x) else none := by
  have hlen := sign_length_le s
  unfold atoiFast decimal
  rcases hsgn : sign s with ⟨neg, ds⟩
  rw [hsgn] at hlen
  by_cases hnil : ds = []
  · simp [hnil]
  simp only [hnil, if_false, ne_eq, not_false_eq_true, true_and]
  rw [show (0 : BitVec 64) = BitVec.ofNat 64 0 from rfl, foldlM_fastStep]
  by_cases hd : ds.all Char.isDigit = true
  · have hlt := foldl_pushDigit_lt hd 0
    have hpow : 10 ^ ds.length ≤ 10 ^ 18 := Nat.pow_le_pow_right (by decide) (by simp at hlen; omega)
    have hv : digitsValue ds ≤ maxInt := by
      unfold digitsValue maxInt; simp only [Nat.zero_add, Nat.one_mul] at hlt
      have : 10 ^ 18 = 1000000000000000000 := by decide
      omega
    simp only [hd, if_true, Option.map_some', Option.some_bind, digitsValue] at hv ⊢
    unfold maxInt at hv ⊢
    cases neg <;> simp only [Bool.false_eq_true, ↓reduceIte]
    · rw [if_pos (by omega)]
      rfl
    · rw [if_pos (by omega), ofInt_neg_natCast]
  · simp [hd]

/-- Both paths of `Atoi` parse the same language: the signed decimals whose value fits an
`int`. -/
theorem atoi_eq (s : String) :
    atoi s = (decimal s.toList).bind fun x =>
      if -(maxInt + 1 : Int) ≤ x ∧ x ≤ maxInt then some (BitVec.ofInt 64 x) else none := by
  unfold atoi
  split
  · rename_i h
    exact atoiFast_eq (by have := length_le_utf8ByteSize s; omega)
  · rw [parseInt_eq]
    cases decimal s.toList with
    | none => rfl
    | some x => simp only [Option.some_bind]; split <;> rfl

/-! ## The decimal rendering read back -/

theorem digitChar_digit {k : Nat} (h : k < 10) :
    (Nat.digitChar k).isDigit = true ∧ digit (Nat.digitChar k) = k := by
  have : ∀ k < 10, (Nat.digitChar k).isDigit = true ∧ digit (Nat.digitChar k) = k := by decide
  exact this k h

/-- `Nat.toDigitsCore` with enough fuel puts the digits of `n`, in front of `ds`. -/
theorem toDigitsCore_digits (fuel : Nat) {n : Nat} (hn : n < fuel) (ds : List Char) :
    ((Nat.toDigitsCore 10 fuel n ds).all Char.isDigit = ds.all Char.isDigit) ∧
      (Nat.toDigitsCore 10 fuel n ds).foldl pushDigit 0 = ds.foldl pushDigit n ∧
      ds.length < (Nat.toDigitsCore 10 fuel n ds).length := by
  induction fuel generalizing n ds with
  | zero => omega
  | succ fuel ih =>
    have hd := digitChar_digit (Nat.mod_lt n (by decide : 10 > 0))
    simp only [Nat.toDigitsCore]
    split
    · rename_i h0
      refine ⟨by simp [hd.1], ?_, by simp⟩
      simp only [List.foldl_cons, pushDigit, hd.2]
      congr 1
      omega
    · rename_i h0
      obtain ⟨h1, h2, h3⟩ := ih (n := n / 10) (by omega) (Nat.digitChar (n % 10) :: ds)
      refine ⟨by rw [h1]; simp [hd.1], ?_, by simp at h3 ⊢; omega⟩
      rw [h2]
      simp only [List.foldl_cons, pushDigit, hd.2]
      congr 1
      omega

/-- `Atoi` reads every `int` from `0` to `math.MaxInt64` back from its decimal rendering. -/
theorem atoi_toString {n : Nat} (h : n ≤ maxInt) : atoi (toString n) = some (BitVec.ofNat 64 n) := by
  obtain ⟨hall, hval, hlen⟩ := toDigitsCore_digits (n + 1) (Nat.lt_succ_self n) []
  have hall' : ∀ c ∈ Nat.toDigits 10 n, c.isDigit = true :=
    List.all_eq_true.mp (by simpa using hall)
  have hdec : decimal (toString n).toList = some (n : Int) := by
    show decimal (Nat.toDigits 10 n) = some (n : Int)
    unfold decimal
    rw [sign_of_digits hall']
    have hne : Nat.toDigits 10 n ≠ [] := List.ne_nil_of_length_pos hlen
    simp only [ne_eq, hne, not_false_eq_true, List.all_eq_true.mpr hall', and_self, if_true,
      Bool.false_eq_true, if_false, Option.some.injEq]
    exact congrArg (fun v : Nat => (v : Int)) hval
  rw [atoi_eq, hdec, Option.some_bind, if_pos (by unfold maxInt at h ⊢; omega)]
  rfl

end Strconv

/-! ## `parseListFilter` and `List` -/

/-- `domain.ListFilter`'s `Page` and `Limit`. -/
structure ListFilter where
  page : BitVec 64
  limit : BitVec 64
  deriving DecidableEq, Repr

/-- The `page` and `limit` values of a request's query string (`q.Get`, `""` when absent). -/
structure ListQuery where
  page : String
  limit : String
  deriving DecidableEq, Repr

/-- `parseListFilter`: `Page` 1 and `Limit` 20, unless the query's value is an `int` that
passes the handler's check. -/
def parseListFilter (q : ListQuery) : ListFilter where
  page := match Strconv.atoi q.page with
    | some p => if BitVec.slt 0 p then p else 1
    | none => 1
  limit := match Strconv.atoi q.limit with
    | some l => if BitVec.slt 0 l && BitVec.sle l 100 then l else 20
    | none => 20

/-- `List`'s `offset := (f.Page - 1) * f.Limit`, on `int`. -/
def ListFilter.offset (f : ListFilter) : BitVec 64 := (f.page - 1) * f.limit

theorem bmod_uint64Mod {x : Int} (h0 : -((Strconv.maxInt : Int) + 1) ≤ x)
    (h1 : x ≤ Strconv.maxInt) : x.bmod Strconv.uint64Mod = x := by
  unfold Strconv.maxInt at h0 h1
  unfold Strconv.uint64Mod
  rw [Int.bmod_def]
  split <;> omega

theorem toInt_le_maxInt (x : BitVec 64) : x.toInt ≤ Strconv.maxInt := by
  have := Int.bmod_lt (x := x.toNat) (m := 2 ^ 64) (by decide)
  rw [BitVec.toInt_eq_toNat_bmod]
  unfold Strconv.maxInt
  simp at this ⊢
  omega

/-- What the handler lets through: a positive page and a limit from 1 to 100. -/
theorem parseListFilter_ranges (q : ListQuery) :
    1 ≤ (parseListFilter q).page.toInt ∧ 1 ≤ (parseListFilter q).limit.toInt ∧
      (parseListFilter q).limit.toInt ≤ 100 := by
  simp only [parseListFilter]
  refine ⟨?_, ?_⟩
  · split
    · split
      · rename_i h; simp only [BitVec.slt, decide_eq_true_eq] at h; simpa using h
      · decide
    · decide
  · split
    · split
      · rename_i h
        simp only [BitVec.slt, BitVec.sle, Bool.and_eq_true, decide_eq_true_eq] at h
        simp at h
        omega
      · decide
    · decide

/-- Every positive `int` is a page some query string asks for. -/
theorem parseListFilter_page_toString {n : Nat} (h1 : 1 ≤ n) (h2 : n ≤ Strconv.maxInt)
    (limit : String) : (parseListFilter ⟨toString n, limit⟩).page.toInt = n := by
  have hn : (BitVec.ofNat 64 n).toInt = n := by
    rw [BitVec.toInt_ofNat]
    exact bmod_uint64Mod (by omega) (by exact_mod_cast h2)
  have h0 : (0 : BitVec 64).toInt = 0 := rfl
  simp only [parseListFilter, Strconv.atoi_toString h2, BitVec.slt, hn, h0]
  rw [if_pos (by simp; omega)]
  exact hn

/-- `List`'s offset is `(page - 1) * limit` modulo `2^64`, read as an `int`. -/
theorem ListFilter.offset_toInt (f : ListFilter) (hp : 1 ≤ f.page.toInt) :
    f.offset.toInt = ((f.page.toInt - 1) * f.limit.toInt).bmod Strconv.uint64Mod := by
  have hp' := toInt_le_maxInt f.page
  have hsub : (f.page - 1).toInt = f.page.toInt - 1 := by
    rw [BitVec.toInt_sub]
    exact bmod_uint64Mod (by unfold Strconv.maxInt at hp' ⊢; simp; omega)
      (by unfold Strconv.maxInt at hp' ⊢; simp; omega)
  rw [ListFilter.offset, BitVec.toInt_mul, hsub]
  rfl

/-- For a filter the handler builds, the offset is the product `(page - 1) * limit` exactly
when that product fits an `int`. -/
theorem ListFilter.offset_exact_iff (q : ListQuery) :
    (parseListFilter q).offset.toInt =
        ((parseListFilter q).page.toInt - 1) * (parseListFilter q).limit.toInt ↔
      ((parseListFilter q).page.toInt - 1) * (parseListFilter q).limit.toInt ≤ Strconv.maxInt := by
  obtain ⟨hp, hl, -⟩ := parseListFilter_ranges q
  have h0 : 0 ≤ ((parseListFilter q).page.toInt - 1) * (parseListFilter q).limit.toInt :=
    Int.mul_nonneg (by omega) (by omega)
  have hb := toInt_le_maxInt (parseListFilter q).offset
  rw [ListFilter.offset_toInt _ hp] at hb ⊢
  exact ⟨fun h => h ▸ hb, fun h => bmod_uint64Mod (by unfold Strconv.maxInt; omega) h⟩

end NotificationDispatch
