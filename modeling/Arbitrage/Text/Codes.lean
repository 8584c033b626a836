namespace Arbitrage.Text

def surrogateBase : Nat := 0xD800

def standInBase : Nat := 0x5D800

/-- The code point of the mark written before a code that stands for itself in the marked
block. -/
def markCode : Nat := 0x5E000

def isSurrogate (n : Nat) : Bool := surrogateBase ≤ n && n < surrogateBase + 2048

def isStandInCode (n : Nat) : Bool := standInBase ≤ n && n < standInBase + 2048

/-- Whether a code that stands for itself is written after the mark: the stand-ins and the mark
itself. -/
def isMarked (n : Nat) : Bool := standInBase ≤ n && n ≤ markCode

/-- The characters written for one code. -/
def encodeCode (n : Nat) : List Char :=
  if isSurrogate n then [Char.ofNat (n - surrogateBase + standInBase)]
  else if isMarked n then [Char.ofNat markCode, Char.ofNat n]
  else [Char.ofNat n]

def codeChars : List Nat → List Char
  | [] => []
  | n :: ns => encodeCode n ++ codeChars ns

/-- The codes that characters are read back as: the character after a mark is its own code, a
stand-in is its surrogate, any other character is its own code. -/
def charCodes : List Char → List Nat
  | [] => []
  | c :: rest =>
    if c.toNat == markCode then
      match rest with
      | d :: rest' => d.toNat :: charCodes rest'
      | [] => [c.toNat]
    else if isStandInCode c.toNat then (c.toNat - standInBase + surrogateBase) :: charCodes rest
    else c.toNat :: charCodes rest

def codes (s : String) : List Nat := charCodes s.toList

def ofCodes (ns : List Nat) : String := String.ofList (codeChars ns)

def ofCode (n : Nat) : String := String.ofList (encodeCode n)

def pushCode (s : String) (n : Nat) : String := (encodeCode n).foldl String.push s

def codeLength (s : String) : Nat := (codes s).length

def takeCodes (n : Nat) (s : String) : String := ofCodes ((codes s).take n)

/-- Whether one sequence of codes comes before another: at the first place where they differ,
or by being a proper beginning of the other. -/
def codesLess : List Nat → List Nat → Bool
  | [], [] => false
  | [], _ :: _ => true
  | _ :: _, [] => false
  | x :: xs, y :: ys => if x == y then codesLess xs ys else x < y

/-- Whether one text comes before another in the order of their codes, as texts are ordered. -/
def codeLess (a b : String) : Bool := codesLess (codes a) (codes b)

/-- Whether one text comes before another or equals it, in the order of their codes. -/
def codeLe (a b : String) : Bool := !codeLess b a

/-- Whether the codes of one text stand together somewhere in another. -/
def occursIn (t s : String) : Bool :=
  let small := codes t
  let large := codes s
  (List.range (large.length + 1)).any fun i => small.isPrefixOf (large.drop i)

theorem toNat_ofNat_of_valid (n : Nat) (h : n.isValidChar) : (Char.ofNat n).toNat = n := by
  rw [Char.ofNat, dif_pos h]
  rfl

theorem isSurrogate_iff (n : Nat) : isSurrogate n = true ↔ 0xD800 ≤ n ∧ n < 0xE000 := by
  unfold isSurrogate surrogateBase
  rw [Bool.and_eq_true, decide_eq_true_iff, decide_eq_true_iff]

theorem isMarked_iff (n : Nat) : isMarked n = true ↔ 0x5D800 ≤ n ∧ n ≤ 0x5E000 := by
  unfold isMarked standInBase markCode
  rw [Bool.and_eq_true, decide_eq_true_iff, decide_eq_true_iff]

theorem isStandInCode_iff (n : Nat) : isStandInCode n = true ↔ 0x5D800 ≤ n ∧ n < 0x5E000 := by
  unfold isStandInCode standInBase
  rw [Bool.and_eq_true, decide_eq_true_iff, decide_eq_true_iff]

theorem charCodes_mark (c d : Char) (rest : List Char) (h : c.toNat = markCode) :
    charCodes (c :: d :: rest) = d.toNat :: charCodes rest := by
  simp [charCodes, h]

theorem charCodes_standIn (c : Char) (rest : List Char) (h : c.toNat ≠ markCode)
    (hs : isStandInCode c.toNat = true) :
    charCodes (c :: rest) = (c.toNat - standInBase + surrogateBase) :: charCodes rest := by
  cases rest <;> simp [charCodes, h, hs]

theorem charCodes_plain (c : Char) (rest : List Char) (h : c.toNat ≠ markCode)
    (hs : isStandInCode c.toNat = false) :
    charCodes (c :: rest) = c.toNat :: charCodes rest := by
  cases rest <;> simp [charCodes, h, hs]

theorem charCodes_encodeCode_append (n : Nat) (h : n < 0x110000) (rest : List Char) :
    charCodes (encodeCode n ++ rest) = n :: charCodes rest := by
  unfold encodeCode
  by_cases hs : isSurrogate n = true
  · have hr := (isSurrogate_iff n).mp hs
    have hv : (n - surrogateBase + standInBase).isValidChar := by
      simp only [Nat.isValidChar, surrogateBase, standInBase]
      omega
    have hc := toNat_ofNat_of_valid _ hv
    have hm : (Char.ofNat (n - surrogateBase + standInBase)).toNat ≠ markCode := by
      rw [hc]
      simp only [surrogateBase, standInBase, markCode]
      omega
    have hst : isStandInCode (Char.ofNat (n - surrogateBase + standInBase)).toNat = true := by
      rw [hc, isStandInCode_iff]
      simp only [surrogateBase, standInBase]
      omega
    have back : n - surrogateBase + standInBase - standInBase + surrogateBase = n := by
      simp only [surrogateBase, standInBase]
      omega
    rw [if_pos hs, List.singleton_append, charCodes_standIn _ _ hm hst, hc, back]
  · rw [if_neg hs]
    by_cases hk : isMarked n = true
    · have hr := (isMarked_iff n).mp hk
      have hv : n.isValidChar := by
        simp only [Nat.isValidChar]
        omega
      have hmv : markCode.isValidChar := by
        simp only [Nat.isValidChar, markCode]
        omega
      rw [if_pos hk, List.cons_append, List.singleton_append,
        charCodes_mark _ _ _ (toNat_ofNat_of_valid _ hmv), toNat_ofNat_of_valid _ hv]
    · have hr : ¬ (0x5D800 ≤ n ∧ n ≤ 0x5E000) := fun h' => hk ((isMarked_iff n).mpr h')
      have hsr : ¬ (0xD800 ≤ n ∧ n < 0xE000) := fun h' => hs ((isSurrogate_iff n).mpr h')
      have hv : n.isValidChar := by
        simp only [Nat.isValidChar]
        omega
      have hm : (Char.ofNat n).toNat ≠ markCode := by
        rw [toNat_ofNat_of_valid _ hv]
        simp only [markCode]
        omega
      have hst : isStandInCode (Char.ofNat n).toNat = false := by
        rw [toNat_ofNat_of_valid _ hv, Bool.eq_false_iff]
        intro h'
        exact hr (by rw [isStandInCode_iff] at h'; omega)
      rw [if_neg hk, List.singleton_append, charCodes_plain _ _ hm hst, toNat_ofNat_of_valid _ hv]

theorem charCodes_codeChars (ns : List Nat) (h : ∀ n ∈ ns, n < 0x110000) :
    charCodes (codeChars ns) = ns := by
  induction ns with
  | nil => rfl
  | cons n ns ih =>
    rw [codeChars, charCodes_encodeCode_append n (h n (List.mem_cons_self ..)),
      ih fun m hm => h m (List.mem_cons_of_mem n hm)]

theorem charCodes_cons_of_ne_mark (c : Char) (rest : List Char) (h : c.toNat ≠ markCode) :
    ∃ n, charCodes (c :: rest) = n :: charCodes rest := by
  cases hs : isStandInCode c.toNat
  · exact ⟨_, charCodes_plain c rest h hs⟩
  · exact ⟨_, charCodes_standIn c rest h hs⟩

theorem charCodes_append_of_lt (w post : List Char) (hw : ∀ c ∈ w, c.toNat < standInBase) :
    charCodes (w ++ post) = w.map Char.toNat ++ charCodes post := by
  induction w with
  | nil => rfl
  | cons c w ih =>
    have hc := hw c List.mem_cons_self
    have hm : c.toNat ≠ markCode := by
      unfold markCode
      unfold standInBase at hc
      omega
    have hs : isStandInCode c.toNat = false := by
      rw [Bool.eq_false_iff, Ne, isStandInCode_iff]
      unfold standInBase at hc
      omega
    rw [List.cons_append, charCodes_plain c _ hm hs,
      ih fun d hd => hw d (List.mem_cons_of_mem c hd)]
    rfl

theorem charCodes_infix_of_lt (w post : List Char) (hne : w ≠ [])
    (hw : ∀ c ∈ w, c.toNat < standInBase) :
    ∀ pre, ∃ X, charCodes (pre ++ w ++ post) = X ++ w.map Char.toNat ++ charCodes post
  | [] => ⟨[], by rw [List.nil_append, charCodes_append_of_lt w post hw, List.nil_append]⟩
  | [c] => by
    by_cases hm : c.toNat = markCode
    · -- the mark reads the first character of the run, as that character's code
      obtain ⟨d, w', rfl⟩ := List.exists_cons_of_ne_nil hne
      refine ⟨[], ?_⟩
      simp only [List.cons_append, List.nil_append]
      rw [charCodes_mark c d _ hm,
        charCodes_append_of_lt w' post fun e he => hw e (List.mem_cons_of_mem d he)]
      rfl
    · obtain ⟨n, hn⟩ := charCodes_cons_of_ne_mark c (w ++ post) hm
      refine ⟨[n], ?_⟩
      rw [List.singleton_append, List.cons_append, hn, charCodes_append_of_lt w post hw]
      rfl
  | c :: d :: pre => by
    by_cases hm : c.toNat = markCode
    · obtain ⟨X, hX⟩ := charCodes_infix_of_lt w post hne hw pre
      refine ⟨d.toNat :: X, ?_⟩
      simp only [List.cons_append]
      rw [charCodes_mark c d _ hm, hX]
    · obtain ⟨X, hX⟩ := charCodes_infix_of_lt w post hne hw (d :: pre)
      obtain ⟨n, hn⟩ := charCodes_cons_of_ne_mark c (d :: pre ++ w ++ post) hm
      refine ⟨n :: X, ?_⟩
      simp only [List.cons_append] at hn hX ⊢
      rw [hn, hX]

theorem occursIn_iff_codes_within (t s : String) :
    occursIn t s = true ↔ codes t <:+: codes s := by
  unfold occursIn
  rw [List.any_eq_true]
  constructor
  · rintro ⟨i, -, hi⟩
    exact (List.isPrefixOf_iff_prefix.1 hi).isInfix.trans (List.drop_suffix i _).isInfix
  · rintro ⟨a, b, hab⟩
    refine ⟨a.length, ?_, ?_⟩
    · rw [List.mem_range, ← hab, List.length_append, List.length_append]
      omega
    · rw [List.isPrefixOf_iff_prefix, ← hab, List.append_assoc, List.drop_left]
      exact List.prefix_append _ _

theorem occursIn_of_toList {t s : String} (pre post : List Char) (hne : t ≠ "")
    (ht : ∀ c ∈ t.toList, c.toNat < standInBase) (hs : s.toList = pre ++ t.toList ++ post) :
    occursIn t s = true := by
  have hsmall : codes t = t.toList.map Char.toNat := by
    have h := charCodes_append_of_lt t.toList [] ht
    rwa [List.append_nil, charCodes, List.append_nil] at h
  have hchars : t.toList ≠ [] := fun h => hne (String.toList_eq_nil_iff.1 h)
  obtain ⟨X, hX⟩ := charCodes_infix_of_lt t.toList post hchars ht pre
  rw [occursIn_iff_codes_within, hsmall, codes, hs, hX]
  exact ⟨X, charCodes post, rfl⟩

end Arbitrage.Text
