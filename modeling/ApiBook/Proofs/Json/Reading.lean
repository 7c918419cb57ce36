/-
What is read from a text can be written.

* `joined_of_parseString`: a string of a text without surrogates has no
  halves of characters side by side;
* `writable_of_readNumber`: a whole number that is read has few enough
  digits;
* `Legible`, `readsLegible`: the values, items and members that are read can
  be written, and told from their texts if there were no surrogates;
* `legible_of_parseBody`, `legible_of_parse`: so can what a whole text
  stands for; `distinct_of_parse`: its objects have members with different
  names.
-/
import ApiBook.Proofs.Value.Members
import ApiBook.Proofs.Json.Limit

namespace ApiBook.Json

/-! ### Strings -/

/-- What is read of a string without surrogates starts with a surrogate
only if the string starts with a numeric escape. -/
lemma isChar_head_of_scanString {whole cs codes left : List Code}
    (hcs : ∀ c ∈ cs, c.isChar)
    (hescape : ∀ rest, cs ≠ .char '\\' :: .char 'u' :: rest)
    (h : scanString whole cs = .ok (codes, left)) :
    ∀ c ∈ codes.head?, c.isChar := by
  have hhead : ∀ {c : Code} {rest : List Code}, c.isChar →
      ∀ d ∈ (c :: rest).head?, d.isChar := fun hc d hd =>
    Option.some.inj hd ▸ hc
  revert h
  fun_cases scanString whole cs with
  | case2 cs =>
    intro h
    obtain ⟨rfl, -⟩ := Prod.mk.inj (Except.ok.inj h)
    exact fun c hc => absurd hc (by simp)
  | case9 c cs _ x _ codes' left' hrest =>
    intro h
    obtain ⟨rfl, -⟩ := Prod.mk.inj (Except.ok.inj h)
    exact hhead rfl
  | case12 c cs _ _ _ _ codes' left' hrest =>
    intro h
    obtain ⟨rfl, -⟩ := Prod.mk.inj (Except.ok.inj h)
    exact hhead (hcs c List.mem_cons_self)
  | case5 => exact absurd rfl (hescape _)
  | _ => exact nofun

/-- What is read of a string without surrogates has nothing to join. -/
lemma joined_of_scanString {whole cs : List Code} (hcs : ∀ c ∈ cs, c.isChar) :
    ∀ {codes left}, scanString whole cs = .ok (codes, left) →
      Text.joinedCodes codes = codes := by
  fun_induction scanString whole cs with
  | case2 cs =>
    intro codes left h
    obtain ⟨rfl, -⟩ := Prod.mk.inj (Except.ok.inj h)
    rfl
  | case5 a b c d e rest n hhex codes' left' hrest ih =>
    intro codes left h
    obtain ⟨rfl, -⟩ := Prod.mk.inj (Except.ok.inj h)
    have hchars : ∀ x ∈ e :: rest, x.isChar := fun x hx =>
      hcs x (List.mem_append_right [_, _, a, b, c, d] hx)
    have hjoined := ih hchars hrest
    unfold beforeRest
    split
    · exact Text.joinedCodes_joinHead hjoined _
    next hescape =>
      -- nothing that could be joined is next
      have hhead := isChar_head_of_scanString hchars
        (fun more heq => hescape more heq) hrest
      rw [Text.joinedCodes_cons, hjoined, Text.joinHead_of_head hhead]
  | case9 c cs x hx hletter codes' left' hrest ih =>
    intro codes left h
    obtain ⟨rfl, -⟩ := Prod.mk.inj (Except.ok.inj h)
    have hjoined := ih (fun y hy => hcs y (List.mem_append_right [_, _] hy))
      hrest
    rw [Text.joinedCodes_cons, hjoined, Text.joinHead_char]
  | case12 c cs _ _ _ _ _ codes' left' hrest ih =>
    intro codes left h
    obtain ⟨rfl, -⟩ := Prod.mk.inj (Except.ok.inj h)
    obtain ⟨x, rfl⟩ := Code.exists_char_of_isChar (hcs c List.mem_cons_self)
    have hjoined := ih (fun y hy => hcs y (List.mem_cons_of_mem _ hy)) hrest
    rw [Text.joinedCodes_cons, hjoined, Text.joinHead_char]
  | _ =>
    intro codes left h
    exact absurd h (by simp)

/-- So does a string. -/
lemma joined_of_parseString {cs left : List Code} {t : Text}
    (hcs : ∀ c ∈ cs, c.isChar) (h : parseString cs = .ok (t, left)) :
    t.joined = t := by
  rw [parseString] at h
  split at h
  next hscan =>
    obtain ⟨rfl, -⟩ := Prod.mk.inj (Except.ok.inj h)
    exact congrArg Text.ofList (joined_of_scanString hcs hscan)
  · exact absurd h (by simp)

/-! ### Words and numbers -/

/-- A number that is whole has the magnitude of its whole part. -/
lemma natAbs_of_unsigned? {negative : Bool} {cs rest : List Char} {i : ℤ}
    (h : unsigned? negative cs = some (.whole i, rest)) :
    ∃ whole left, wholePart? cs = some (whole, left) ∧
      i.natAbs = Decimal.toNat whole := by
  rw [unsigned?] at h
  split at h
  · exact absurd h (by simp)
  next whole left hwhole =>
    refine ⟨whole, left, hwhole, ?_⟩
    dsimp only at h
    split at h
    · split_ifs at h with hfrac hneg
      · obtain ⟨hi, -⟩ := Prod.mk.inj (Option.some.inj h)
        rw [← Number.whole.inj hi, Int.natAbs_neg, Int.natAbs_natCast]
      · obtain ⟨hi, -⟩ := Prod.mk.inj (Option.some.inj h)
        rw [← Number.whole.inj hi, Int.natAbs_natCast]
      · exact absurd h (by simp)
    · exact absurd h (by simp)

/-- A whole number at the head of a text has the magnitude of the digits
that are counted there. -/
lemma exists_digits_of_number? {cs rest : List Char} {i : ℤ}
    (h : number? cs = some (.whole i, rest)) :
    ∃ digits : List Char, (∀ c ∈ digits, c.isDigit) ∧
      digits.length = wholeDigits cs ∧ i.natAbs = Decimal.toNat digits := by
  unfold number? at h
  split at h
  all_goals
    obtain ⟨whole, left, hwhole, hi⟩ := natAbs_of_unsigned? h
    refine ⟨whole, isDigit_of_wholePart? hwhole, ?_, hi⟩
    simp [wholeDigits, hwhole]

/-- A number that is read can be written. -/
lemma writable_of_readNumber {d : ℕ} {cs rest : List Code} {v : Value}
    (h : readNumber cs = .ok (v, rest)) : Writable d v ∧ v.joined = v := by
  rw [readNumber] at h
  dsimp only at h
  split at h
  · exact absurd h (by simp)
  next i left hnumber =>
    split at h
    · exact absurd h (by simp)
    next hlimit =>
      obtain ⟨rfl, -⟩ := Prod.mk.inj (Except.ok.inj h)
      obtain ⟨digits, hdigits, hlength, hi⟩ :=
        exists_digits_of_number? hnumber
      exact ⟨.whole (Number.isWritable_of_digits hdigits
        (hlength.trans_le (Nat.le_of_not_lt hlimit)) hi), rfl⟩
  · obtain ⟨rfl, -⟩ := Prod.mk.inj (Except.ok.inj h)
    exact ⟨.float _, rfl⟩

/-- So can a word or a number. -/
lemma writable_of_readScalar {d : ℕ} {cs rest : List Code} {v : Value}
    (h : readScalar cs = .ok (v, rest)) : Writable d v ∧ v.joined = v := by
  rw [readScalar] at h
  split at h
  next r hr =>
    obtain ⟨⟨word, w⟩, hmem, hw⟩ := List.exists_of_findSome?_eq_some hr
    obtain ⟨left, -, rfl⟩ := Option.map_eq_some_iff.mp hw
    obtain ⟨rfl, -⟩ := Prod.mk.inj (Except.ok.inj h)
    have hwords : ∀ p ∈ literals, Writable d p.2 ∧ p.2.joined = p.2 := by
      simp only [literals, List.forall_mem_cons]
      exact ⟨⟨.null, rfl⟩, ⟨.bool _, rfl⟩, ⟨.bool _, rfl⟩, ⟨.float _, rfl⟩,
        ⟨.float _, rfl⟩, ⟨.float _, rfl⟩, List.forall_mem_nil _⟩
    exact hwords _ hmem
  · exact writable_of_readNumber h

/-! ### Values -/

/-- What a value that is read from a text is like: it can be written; and
if there were no surrogates in the text, nothing is left to join in it. -/
structure Legible (d : ℕ) (cs : List Code) (v : Value) : Prop where
  writable : Writable d v
  joined : (∀ c ∈ cs, c.isChar) → v.joined = v

/-- A member that is read from a text: nothing is left to join in its name
either. -/
structure LegibleMember (d : ℕ) (cs : List Code) (m : Text × Value) : Prop where
  value : Legible d cs m.2
  name : (∀ c ∈ cs, c.isChar) → m.1.joined = m.1

section Legible

variable {d : ℕ} {cs left : List Code} {v : Value} {vs : List Value}
  {ms : Members}

/-- What is read from the end of a text is read from the text. -/
lemma Legible.of_suffix (h : Legible d left v) (hleft : left <:+ cs) :
    Legible d cs v :=
  ⟨h.writable, fun hcs => h.joined fun c hc => hcs c (hleft.subset hc)⟩

/-- So is a member. -/
lemma LegibleMember.of_suffix {m : Text × Value} (h : LegibleMember d left m)
    (hleft : left <:+ cs) : LegibleMember d cs m :=
  ⟨h.value.of_suffix hleft, fun hcs =>
    h.name fun c hc => hcs c (hleft.subset hc)⟩

/-- A list of items that are read from a text. -/
lemma Legible.list (h : ∀ v ∈ vs, Legible d cs v) :
    Legible (d + 1) cs (.list vs) :=
  ⟨.list fun v hv => (h v hv).writable, fun hcs =>
    Value.joined_list_iff.mpr fun v hv => (h v hv).joined hcs⟩

/-- An object of members that are read from a text. -/
lemma Legible.object (names : (ms.map Prod.fst).Nodup)
    (h : ∀ m ∈ ms, LegibleMember d cs m) : Legible (d + 1) cs (.object ms) :=
  ⟨.object names fun m hm => (h m hm).value.writable, fun hcs =>
    Value.joined_object_iff.mpr fun m hm =>
      ⟨(h m hm).name hcs, (h m hm).value.joined hcs⟩⟩

end Legible

/-- What the readers of one amount of fuel find is legible. -/
structure ReadsLegible (fuel : ℕ) : Prop where
  value : ∀ {d cs v rest}, parseValue d fuel cs = .ok (v, rest) →
    Legible d cs v
  items : ∀ {d cs vs rest}, parseItems d fuel cs = .ok (vs, rest) →
    ∀ v ∈ vs, Legible d cs v
  pairs : ∀ {d cs ms rest}, parsePairs d fuel cs = .ok (ms, rest) →
    ∀ m ∈ ms, LegibleMember d cs m

/-- What is left after a value is an end of the text. -/
lemma suffix_of_parseValue {d fuel : ℕ} {cs rest : List Code} {v : Value}
    (h : parseValue d fuel cs = .ok (v, rest)) : rest <:+ cs :=
  ((readsBounded fuel).value d cs).suffix h

/-- With more fuel, a value is legible. -/
lemma ReadsLegible.value_succ {fuel : ℕ} (ih : ReadsLegible fuel) {d : ℕ}
    {cs rest : List Code} {v : Value}
    (h : parseValue d (fuel + 1) cs = .ok (v, rest)) : Legible d cs v := by
  unfold parseValue at h
  split at h
  next text =>
    split at h
    next hstring =>
      obtain ⟨rfl, -⟩ := Prod.mk.inj (Except.ok.inj h)
      refine ⟨.text _, fun hcs => congrArg Value.text ?_⟩
      exact joined_of_parseString
        (fun c hc => hcs c (List.mem_cons_of_mem _ hc)) hstring
    · exact absurd h (by simp)
  · exact absurd h (by simp)
  · exact absurd h (by simp)
  next text =>
    split at h
    · obtain ⟨rfl, -⟩ := Prod.mk.inj (Except.ok.inj h)
      exact .list (List.forall_mem_nil _)
    · split at h
      next hitems =>
        obtain ⟨rfl, -⟩ := Prod.mk.inj (Except.ok.inj h)
        exact (Legible.list (ih.items hitems)).of_suffix
          ((skipSpace_suffix text).trans (List.suffix_cons _ text))
      · exact absurd h (by simp)
  next text =>
    split at h
    · obtain ⟨rfl, -⟩ := Prod.mk.inj (Except.ok.inj h)
      exact .object List.nodup_nil (List.forall_mem_nil _)
    · split at h
      next hpairs =>
        obtain ⟨rfl, -⟩ := Prod.mk.inj (Except.ok.inj h)
        refine (Legible.object (Members.nodup_ofPairs _) fun m hm =>
          ih.pairs hpairs m (Members.mem_of_mem_ofPairs hm)).of_suffix ?_
        exact (skipSpace_suffix text).trans (List.suffix_cons _ text)
      · exact absurd h (by simp)
  · obtain ⟨hwritable, hjoined⟩ := writable_of_readScalar h
    exact ⟨hwritable, fun _ => hjoined⟩

/-- So are items. -/
lemma ReadsLegible.items_succ {fuel : ℕ} (ih : ReadsLegible fuel) {d : ℕ}
    {cs rest : List Code} {vs : List Value}
    (h : parseItems d (fuel + 1) cs = .ok (vs, rest)) :
    ∀ v ∈ vs, Legible d cs v := by
  unfold parseItems at h
  split at h
  · exact absurd h (by simp)
  next hv =>
    have hleft := suffix_of_parseValue hv
    split at h
    · obtain ⟨rfl, -⟩ := Prod.mk.inj (Except.ok.inj h)
      exact List.forall_mem_singleton.mpr (ih.value hv)
    next more hmore =>
      split at h
      next hvs =>
        obtain ⟨rfl, -⟩ := Prod.mk.inj (Except.ok.inj h)
        have hsuffix := (skipSpace_suffix more).trans
          ((suffix_of_skipSpace hmore).trans hleft)
        exact List.forall_mem_cons.mpr ⟨ih.value hv, fun v hv =>
          (ih.items hvs v hv).of_suffix hsuffix⟩
      · exact absurd h (by simp)
    · exact absurd h (by simp)

/-- So are members. -/
lemma ReadsLegible.pairs_succ {fuel : ℕ} (ih : ReadsLegible fuel) {d : ℕ}
    {cs rest : List Code} {ms : Members}
    (h : parsePairs d (fuel + 1) cs = .ok (ms, rest)) :
    ∀ m ∈ ms, LegibleMember d cs m := by
  unfold parsePairs at h
  split at h
  next text =>
    split at h
    · exact absurd h (by simp)
    next key left hname =>
      have hjoined : (∀ c ∈ Code.char '"' :: text, c.isChar) →
          key.joined = key := fun hcs =>
        joined_of_parseString (fun c hc => hcs c (List.mem_cons_of_mem _ hc))
          hname
      have hleft : left <:+ Code.char '"' :: text :=
        ((bounded_parseString d text).suffix hname).trans
          (List.suffix_cons _ text)
      split at h
      next value hcolon =>
        have hvalue := (skipSpace_suffix value).trans
          ((suffix_of_skipSpace hcolon).trans hleft)
        split at h
        · exact absurd h (by simp)
        next hv =>
          have hmember := (ih.value hv).of_suffix hvalue
          have hrest := (suffix_of_parseValue hv).trans hvalue
          split at h
          · obtain ⟨rfl, -⟩ := Prod.mk.inj (Except.ok.inj h)
            exact List.forall_mem_singleton.mpr ⟨hmember, hjoined⟩
          next more hmore =>
            split at h
            next hms =>
              obtain ⟨rfl, -⟩ := Prod.mk.inj (Except.ok.inj h)
              have hsuffix := (skipSpace_suffix more).trans
                ((suffix_of_skipSpace hmore).trans hrest)
              exact List.forall_mem_cons.mpr ⟨⟨hmember, hjoined⟩, fun m hm =>
                (ih.pairs hms m hm).of_suffix hsuffix⟩
            · exact absurd h (by simp)
          · exact absurd h (by simp)
      · exact absurd h (by simp)
  · exact absurd h (by simp)

/-- With any amount of fuel, what is read is legible. -/
lemma readsLegible (fuel : ℕ) : ReadsLegible fuel := by
  induction fuel with
  | zero =>
    constructor
    · intro d cs v rest h
      exact absurd h (by simp [parseValue])
    · intro d cs vs rest h
      exact absurd h (by simp [parseItems])
    · intro d cs ms rest h
      exact absurd h (by simp [parsePairs])
  | succ fuel ih => exact ⟨ih.value_succ, ih.items_succ, ih.pairs_succ⟩

/-! ### Whole texts -/

/-- What a whole text stands for is legible. -/
theorem legible_of_parseBody {d : ℕ} {cs : List Code} {v : Value}
    (h : parseBody d cs = .ok v) : Legible d cs v := by
  rw [parseBody] at h
  split at h
  · exact absurd h (by simp)
  next hv =>
    split at h
    · obtain rfl := Except.ok.inj h
      exact ((readsLegible _).value hv).of_suffix (skipSpace_suffix cs)
    · exact absurd h (by simp)

/-- So is what it stands for if it must not start with a byte order
mark. -/
theorem legible_of_parse {d : ℕ} {t : Text} {v : Value}
    (h : parse d t = .ok v) : Legible d t.toList v := by
  rw [parse] at h
  split at h
  · exact absurd h (by simp)
  · exact legible_of_parseBody h

end ApiBook.Json
