/-
Values in writing are read back.

* `Style.Sound`: the styles that put nothing but space beside their marks;
* `Writable`: the values that can be told from their texts, but for halves
  of characters;
* `ReadsBack`, `readsBack_of_writable`: such a value with nothing to join is
  read back at the head of any text that does not go on like a number;
* `parse_print`: the text of such a value stands for it.
-/
import ApiBook.Proofs.Json.Float
import ApiBook.Proofs.Json.Quoted
import ApiBook.Proofs.Value.Joined
import ApiBook.Proofs.Value.Members

namespace ApiBook.Json

/-! ### Space -/

/-- Space before a text is skipped. -/
lemma skipSpace_append {spaces : List Char} (h : ∀ c ∈ spaces, isSpace c)
    (cs : List Code) : skipSpace (spaces.map .char ++ cs) = skipSpace cs :=
  List.dropWhile_append_of_pos (List.forall_mem_map.mpr h)

/-- A text that does not start with space is left as it is. -/
lemma skipSpace_cons {c : Char} (h : isSpace c = false) (cs : List Code) :
    skipSpace (.char c :: cs) = .char c :: cs :=
  List.dropWhile_cons_of_neg (by simp [h])

/-- The start of a line is space. -/
lemma isSpace_of_mem_lineStart {style : Style} {level : ℕ} {c : Char}
    (hc : c ∈ lineStart style level) : isSpace c := by
  unfold lineStart at hc
  split at hc
  · exact absurd hc List.not_mem_nil
  · rcases List.mem_cons.mp hc with rfl | hc
    · decide
    · rw [List.eq_of_mem_replicate hc]
      decide

/-- A style that puts nothing but space after its marks. -/
structure Style.Sound (style : Style) : Prop where
  comma : ∃ spaces, style.comma = ',' :: spaces ∧ ∀ c ∈ spaces, isSpace c
  colon : ∃ spaces, style.colon = ':' :: spaces ∧ ∀ c ∈ spaces, isSpace c

/-- The compact style. -/
lemma Style.sound_compact : Style.compact.Sound :=
  ⟨⟨[], rfl, List.forall_mem_nil _⟩, [], rfl, List.forall_mem_nil _⟩

/-- The indented styles. -/
lemma Style.sound_indented (n : ℕ) : (Style.indented n).Sound :=
  ⟨⟨[], rfl, List.forall_mem_nil _⟩, [' '], rfl,
    List.forall_mem_singleton.mpr rfl⟩

/-- The values that can be told from their texts, but for halves of
characters that stand side by side: whole numbers within the limit, any
other numbers, names of members that differ, and lists and objects no
deeper than `d`. -/
inductive Writable : ℕ → Value → Prop where
  | null {d : ℕ} : Writable d .null
  | bool {d : ℕ} (b : Bool) : Writable d (.bool b)
  | text {d : ℕ} (s : Text) : Writable d (.text s)
  | whole {d : ℕ} {i : ℤ} (h : Number.isWritable i) : Writable d (.int i)
  | float {d : ℕ} (x : Binary64) : Writable d (.float x)
  | list {d : ℕ} {vs : List Value} (h : ∀ v ∈ vs, Writable d v) :
      Writable (d + 1) (.list vs)
  | object {d : ℕ} {ms : Members} (names : (ms.map Prod.fst).Nodup)
      (h : ∀ m ∈ ms, Writable d m.2) : Writable (d + 1) (.object ms)

variable {style : Style} {d level fuel : ℕ} {v : Value} {rest : List Code}

/-- What may be nested so deep may be nested deeper. -/
lemma Writable.mono (hv : Writable d v) : ∀ {e : ℕ}, d ≤ e → Writable e v := by
  induction hv with
  | null => exact fun _ => .null
  | bool b => exact fun _ => .bool b
  | text s => exact fun _ => .text s
  | whole h => exact fun _ => .whole h
  | float x => exact fun _ => .float x
  | list _ ih =>
    intro e he
    obtain ⟨e, rfl⟩ := Nat.exists_eq_succ_of_ne_zero (by omega : e ≠ 0)
    exact .list fun v hv => ih v hv (by omega)
  | object names _ ih =>
    intro e he
    obtain ⟨e, rfl⟩ := Nat.exists_eq_succ_of_ne_zero (by omega : e ≠ 0)
    exact .object names fun m hm => ih m hm (by omega)

/-- A digit is no space. -/
lemma isSpace_of_isDigit {c : Char} (hc : c.isDigit) : isSpace c = false := by
  have hne : ∀ x : Char, x.isDigit = false → c ≠ x := fun _ =>
    ne_of_isDigit hc
  simp only [isSpace, hne ' ' (by decide), hne '\t' (by decide),
    hne '\n' (by decide), hne '\r' (by decide), decide_false, Bool.or_self]

/-- A digit is an ASCII character. -/
lemma toNat_lt_of_isDigit {c : Char} (hc : c.isDigit) : c.toNat < 0x80 := by
  have hle : c.val ≤ 57 := by
    simp only [Char.isDigit, Bool.and_eq_true, decide_eq_true_eq] at hc
    exact hc.2
  exact lt_of_le_of_lt hle (by decide)

/-- A whole number in writing starts with a minus sign or a digit. -/
lemma exists_cons_ofInt (i : ℤ) :
    ∃ c cs, Decimal.ofInt i = c :: cs ∧ (c = '-' ∨ c.isDigit) := by
  obtain ⟨c, cs, hcs, hc⟩ := exists_cons_ofNat i.natAbs
  unfold Decimal.ofInt
  split
  · exact ⟨'-', _, rfl, Or.inl rfl⟩
  · exact ⟨c, cs, hcs, Or.inr hc⟩

/-- A value in writing starts with an ASCII character that is neither
space nor a closing bracket. -/
lemma exists_cons_printAt (hv : Writable d v) (style : Style) (level : ℕ) :
    ∃ c cs, printAt style level v = c :: cs
      ∧ isSpace c = false ∧ c ≠ ']' ∧ c.toNat < 0x80 := by
  cases hv with
  | null => exact ⟨'n', ['u', 'l', 'l'], by rw [printAt]; decide⟩
  | bool b =>
    cases b
    · exact ⟨'f', ['a', 'l', 's', 'e'], by rw [printAt]; decide⟩
    · exact ⟨'t', ['r', 'u', 'e'], by rw [printAt]; decide⟩
  | text s => exact ⟨'"', _, by rw [printAt]; rfl, by decide⟩
  | @whole _ i _ =>
    obtain ⟨c, cs, hcs, hc⟩ := exists_cons_ofInt i
    refine ⟨c, cs, by rw [printAt]; exact hcs, ?_⟩
    rcases hc with rfl | hc
    · decide
    · exact ⟨isSpace_of_isDigit hc, ne_of_isDigit hc (by decide),
        toNat_lt_of_isDigit hc⟩
  | float x =>
    obtain ⟨c, cs, hcs, hc⟩ := exists_cons_float x
    refine ⟨c, cs, by rw [printAt]; exact hcs, ?_⟩
    rcases hc with hc | hc
    · simp only [List.mem_cons, List.not_mem_nil, or_false] at hc
      rcases hc with rfl | rfl | rfl <;> decide
    · exact ⟨isSpace_of_isDigit hc, ne_of_isDigit hc (by decide),
        toNat_lt_of_isDigit hc⟩
  | @list _ vs _ =>
    cases vs with
    | nil => exact ⟨'[', [']'], by rw [printAt], by decide⟩
    | cons v vs => exact ⟨'[', _, by rw [printAt]; rfl, by decide⟩
  | @object _ ms _ _ =>
    cases ms with
    | nil => exact ⟨'{', ['}'], by rw [printAt], by decide⟩
    | cons m ms => exact ⟨'{', _, by rw [printAt]; rfl, by decide⟩

/-! ### One step of reading -/

section Step

variable {s : Text} {c : Char} {cs left more : List Code}
  {vs : List Value} {ms : Members}

/-- A string at the head of a text. -/
lemma parseValue_text (h : parseString cs = .ok (s, left)) :
    parseValue d (fuel + 1) (.char '"' :: cs) = .ok (.text s, left) := by
  rw [parseValue]
  simp only [h]

/-- A word or a number at the head of a text. -/
lemma parseValue_scalar (hq : c ≠ '"') (hl : c ≠ '[') (ho : c ≠ '{') :
    parseValue d (fuel + 1) (.char c :: cs) = readScalar (.char c :: cs) := by
  have hne : ∀ (mark : Char) (rest : List Code), c ≠ mark →
      Code.char c :: cs = .char mark :: rest → False :=
    fun _ _ h he => h (Code.char.inj (List.cons.inj he).1)
  exact parseValue.eq_7 _ _ _ (fun _ => hne _ _ hq) (fun _ _ => hne _ _ hl)
    (fun _ _ => hne _ _ ho) (fun _ _ _ => hne _ _ hl) fun _ _ _ => hne _ _ ho

/-- An empty list. -/
lemma parseValue_nil (left : List Code) :
    parseValue (d + 1) (fuel + 1) (.char '[' :: .char ']' :: left)
      = .ok (.list [], left) := by
  rw [parseValue]
  rfl

/-- A list with items. -/
lemma parseValue_list (hcs : skipSpace cs = .char c :: more) (hc : c ≠ ']')
    (h : parseItems d fuel (.char c :: more) = .ok (vs, left)) :
    parseValue (d + 1) (fuel + 1) (.char '[' :: cs) = .ok (.list vs, left) := by
  rw [parseValue, hcs]
  split
  next heq => exact absurd (Code.char.inj (List.cons.inj heq).1) hc
  next => simp only [h]

/-- An object without members. -/
lemma parseValue_empty (left : List Code) :
    parseValue (d + 1) (fuel + 1) (.char '{' :: .char '}' :: left)
      = .ok (.object [], left) := by
  rw [parseValue]
  rfl

/-- An object with members. -/
lemma parseValue_object (hcs : skipSpace cs = .char c :: more) (hc : c ≠ '}')
    (h : parsePairs d fuel (.char c :: more) = .ok (ms, left)) :
    parseValue (d + 1) (fuel + 1) (.char '{' :: cs)
      = .ok (.object (Members.ofPairs ms), left) := by
  rw [parseValue, hcs]
  split
  next heq => exact absurd (Code.char.inj (List.cons.inj heq).1) hc
  next => simp only [h]

/-- The last item of a list. -/
lemma parseItems_last (hv : parseValue d fuel cs = .ok (v, rest))
    (hrest : skipSpace rest = .char ']' :: left) :
    parseItems d (fuel + 1) cs = .ok ([v], left) := by
  rw [parseItems, hv]
  simp only [hrest]

/-- An item of a list with more after it. -/
lemma parseItems_cons (hv : parseValue d fuel cs = .ok (v, rest))
    (hrest : skipSpace rest = .char ',' :: more)
    (h : parseItems d fuel (skipSpace more) = .ok (vs, left)) :
    parseItems d (fuel + 1) cs = .ok (v :: vs, left) := by
  rw [parseItems, hv]
  simp only [hrest, h]

/-- The last member of an object. -/
lemma parsePairs_last {value : List Code}
    (hk : parseString cs = .ok (s, .char ':' :: value))
    (hv : parseValue d fuel (skipSpace value) = .ok (v, rest))
    (hrest : skipSpace rest = .char '}' :: left) :
    parsePairs d (fuel + 1) (.char '"' :: cs) = .ok ([(s, v)], left) := by
  rw [parsePairs, hk]
  simp only [skipSpace_cons (c := ':') (by decide), hv, hrest]

/-- A member of an object with more after it. -/
lemma parsePairs_cons {value : List Code}
    (hk : parseString cs = .ok (s, .char ':' :: value))
    (hv : parseValue d fuel (skipSpace value) = .ok (v, rest))
    (hrest : skipSpace rest = .char ',' :: more)
    (h : parsePairs d fuel (skipSpace more) = .ok (ms, left)) :
    parsePairs d (fuel + 1) (.char '"' :: cs) = .ok ((s, v) :: ms, left) := by
  rw [parsePairs, hk]
  simp only [skipSpace_cons (c := ':') (by decide), hv, hrest, h]

end Step

/-! ### Between values -/

/-- The marks between values, and the end of a line, end numbers. -/
lemma endsNumber_mark {mark : Char} (h : mark ∈ [',', ']', '}', '\n'])
    (rest : List Code) : EndsNumber (.char mark :: rest) := by
  intro c hc
  obtain rfl := Option.some.inj hc
  simp only [List.mem_cons, List.not_mem_nil, or_false] at h
  rcases h with rfl | rfl | rfl | rfl <;> rfl

/-- A closing bracket on a line of its own ends a number. -/
lemma endsNumber_lineStart {mark : Char} (style : Style) (level : ℕ)
    (hmark : EndsNumber (.char mark :: rest)) :
    EndsNumber ((lineStart style level).map .char ++ .char mark :: rest) := by
  unfold lineStart
  split
  · exact hmark
  · exact endsNumber_mark (by simp) _

/-- What stands before a mark on a line of its own is skipped. -/
lemma skipSpace_lineStart {mark : Char} (style : Style) (level : ℕ)
    (hmark : isSpace mark = false) (rest : List Code) :
    skipSpace ((lineStart style level).map .char ++ .char mark :: rest)
      = .char mark :: rest := by
  rw [skipSpace_append fun _ => isSpace_of_mem_lineStart, skipSpace_cons hmark]

/-- A value in writing is read back, whatever it stands before, as long
as that ends a number. Two steps for each character are enough: one for
a value, and one for the item or member that it is. -/
def ReadsBack (style : Style) (d : ℕ) (v : Value) : Prop :=
  ∀ fuel level rest, EndsNumber rest →
    2 * (printAt style level v).length ≤ fuel + 1 →
    parseValue d fuel ((printAt style level v).map .char ++ rest)
      = .ok (v, rest)

/-- Space before a value in writing is skipped, and no more. -/
lemma skipSpace_printAt (hv : Writable d v) {spaces : List Char}
    (hspaces : ∀ c ∈ spaces, isSpace c) (style : Style) (level : ℕ)
    (rest : List Code) :
    skipSpace (spaces.map .char ++ ((printAt style level v).map .char ++ rest))
      = (printAt style level v).map .char ++ rest := by
  obtain ⟨c, cs, hcs, hc, -⟩ := exists_cons_printAt hv style level
  rw [skipSpace_append hspaces, hcs, List.map_cons, List.cons_append,
    skipSpace_cons hc]

/-! ### Lists -/

/-- The items of a list in writing are read back, if each of them is. -/
lemma parseItems_printItems (hs : style.Sound) {vs : List Value}
    (hvs : ∀ w ∈ v :: vs, Writable d w ∧ ReadsBack style d w)
    (fuel level outer : ℕ) (rest : List Code)
    (hfuel : 2 * ((printAt style level v).length
      + (printItems style level vs).length + 1) ≤ fuel) :
    parseItems d fuel ((printAt style level v).map .char
      ++ ((printItems style level vs).map .char
      ++ ((lineStart style outer).map .char ++ .char ']' :: rest)))
      = .ok (v :: vs, rest) := by
  induction vs generalizing v fuel with
  | nil =>
    obtain ⟨fuel, rfl⟩ := Nat.exists_eq_succ_of_ne_zero (by omega : fuel ≠ 0)
    obtain ⟨-, hv⟩ := hvs v List.mem_cons_self
    have hclose : EndsNumber (.char ']' :: rest) :=
      endsNumber_mark (by simp) rest
    rw [printItems, List.map_nil, List.nil_append]
    exact parseItems_last
      (hv fuel level _ (endsNumber_lineStart style outer hclose) (by omega))
      (skipSpace_lineStart style outer (by decide) rest)
  | cons w vs ih =>
    obtain ⟨fuel, rfl⟩ := Nat.exists_eq_succ_of_ne_zero (by omega : fuel ≠ 0)
    obtain ⟨-, hv⟩ := hvs v List.mem_cons_self
    obtain ⟨hw, -⟩ := hvs w (List.mem_cons_of_mem _ List.mem_cons_self)
    obtain ⟨spaces, hcomma, hspaces⟩ := hs.comma
    simp only [printItems, hcomma, List.length_append, List.length_cons,
      List.map_append, List.map_cons, List.cons_append, List.append_assoc]
      at hfuel ⊢
    refine parseItems_cons
      (hv fuel level _ (endsNumber_mark (by simp) _) (by omega))
      (skipSpace_cons (by decide) _) ?_
    rw [skipSpace_append hspaces,
      skipSpace_printAt hw fun _ => isSpace_of_mem_lineStart]
    exact ih (fun x hx => hvs x (List.mem_cons_of_mem _ hx)) fuel
      (by omega)

/-! ### Objects -/

/-- A text in writing before more of a text. -/
lemma printString_append (a : Bool) (t : Text) (cs : List Code) :
    (printString a t).map .char ++ cs
      = .char '"' :: (escapedCodes a t.toList ++ .char '"' :: cs) := by
  rw [printString, escapedCodes]
  simp only [List.map_append, List.map_cons, List.map_nil, List.cons_append,
    List.append_assoc, List.nil_append]

/-- A text with nothing to join is read back. -/
lemma parseString_printed (a : Bool) {t : Text} (ht : t.joined = t)
    (rest : List Code) :
    parseString (escapedCodes a t.toList ++ .char '"' :: rest)
      = .ok (t, rest) := by
  rw [parseString_escaped, ht]

/-- The members of an object in writing are read back, if the value of
each of them is and nothing is left to join in their names. -/
lemma parsePairs_printMembers (hs : style.Sound) {k : Text} {ms : Members}
    (hk : k.joined = k) (hv : Writable d v ∧ ReadsBack style d v)
    (hms : ∀ m ∈ ms, m.1.joined = m.1 ∧ Writable d m.2 ∧
      ReadsBack style d m.2)
    (fuel level outer : ℕ) (rest : List Code)
    (hfuel : 2 * ((printAt style level v).length
      + (printMembers style level ms).length + 1) ≤ fuel) :
    parsePairs d fuel ((printString style.asciiOnly k).map .char
      ++ (style.colon.map .char ++ ((printAt style level v).map .char
      ++ ((printMembers style level ms).map .char
      ++ ((lineStart style outer).map .char ++ .char '}' :: rest)))))
      = .ok ((k, v) :: ms, rest) := by
  obtain ⟨gap, hcolon, hgap⟩ := hs.colon
  induction ms generalizing k v fuel with
  | nil =>
    obtain ⟨fuel, rfl⟩ := Nat.exists_eq_succ_of_ne_zero (by omega : fuel ≠ 0)
    have hclose : EndsNumber (.char '}' :: rest) :=
      endsNumber_mark (by simp) rest
    rw [printMembers, List.map_nil, List.nil_append, printString_append,
      hcolon, List.map_cons, List.cons_append]
    refine parsePairs_last (parseString_printed _ hk _) ?_
      (skipSpace_lineStart style outer (by decide) rest)
    rw [skipSpace_printAt hv.1 hgap]
    exact hv.2 fuel level _ (endsNumber_lineStart style outer hclose)
      (by omega)
  | cons m ms ih =>
    obtain ⟨k', w⟩ := m
    obtain ⟨fuel, rfl⟩ := Nat.exists_eq_succ_of_ne_zero (by omega : fuel ≠ 0)
    obtain ⟨spaces, hcomma, hspaces⟩ := hs.comma
    obtain ⟨hk', hw⟩ : k'.joined = k' ∧ Writable d w ∧ ReadsBack style d w :=
      hms _ List.mem_cons_self
    simp only [printMembers, hcomma, List.length_append, List.length_cons,
      List.map_append, List.map_cons, List.cons_append, List.append_assoc]
      at hfuel ⊢
    have hmore := ih hk' hw (fun x hx => hms x (List.mem_cons_of_mem _ hx))
      fuel (by omega)
    have hvalue : ∀ more, parseValue d fuel (skipSpace (gap.map .char
        ++ ((printAt style level v).map .char ++ .char ',' :: more)))
        = .ok (v, .char ',' :: more) := fun more => by
      rw [skipSpace_printAt hv.1 hgap]
      exact hv.2 fuel level _ (endsNumber_mark (by simp) more) (by omega)
    rw [printString_append _ k, hcolon, List.map_cons, List.cons_append]
    refine parsePairs_cons (parseString_printed _ hk _) (hvalue _)
      (skipSpace_cons (by decide) _) ?_
    rw [skipSpace_append hspaces,
      skipSpace_append fun _ => isSpace_of_mem_lineStart,
      printString_append _ k', skipSpace_cons (by decide)]
    rwa [printString_append _ k', hcolon] at hmore

/-! ### Values -/

/-- The word for nothing. -/
lemma readScalar_null (rest : List Code) :
    readScalar ("null".toList.map .char ++ rest) = .ok (.null, rest) := rfl

/-- The words for truth values. -/
lemma readScalar_bool (b : Bool) (rest : List Code) :
    readScalar ((if b then "true" else "false").toList.map .char ++ rest)
      = .ok (.bool b, rest) := by
  cases b <;> rfl

/-- Reading a value in writing takes at least one step. -/
lemma exists_fuel_eq (hv : Writable d v)
    (hfuel : 2 * (printAt style level v).length ≤ fuel + 1) :
    ∃ k, fuel = k + 1 := by
  obtain ⟨c, cs, hcs, -⟩ := exists_cons_printAt hv style level
  rw [hcs, List.length_cons] at hfuel
  exact Nat.exists_eq_succ_of_ne_zero (by omega)

/-- A list with items is read back, if each of them is. -/
lemma readsBack_list (hs : style.Sound) {vs : List Value}
    (hvs : ∀ w ∈ v :: vs, Writable d w ∧ ReadsBack style d w) :
    ReadsBack style (d + 1) (.list (v :: vs)) := by
  intro fuel level rest _ hfuel
  obtain ⟨fuel, rfl⟩ :=
    exists_fuel_eq (.list fun w hw => (hvs w hw).1) hfuel
  have hv : Writable d v := (hvs v List.mem_cons_self).1
  obtain ⟨c, cs, hcs, -, hc, -⟩ := exists_cons_printAt hv style (level + 1)
  simp only [printAt, List.length_append, List.length_cons] at hfuel
  -- the brackets pay for the step from the list to its items
  have hitems := parseItems_printItems hs hvs fuel (level + 1) level rest
    (by omega)
  have hspaces : ∀ c ∈ lineStart style (level + 1), isSpace c := fun _ =>
    isSpace_of_mem_lineStart
  have hskip := skipSpace_printAt hv hspaces style (level + 1)
    ((printItems style (level + 1) vs).map .char
      ++ ((lineStart style level).map .char ++ .char ']' :: rest))
  rw [hcs, List.map_cons, List.cons_append] at hitems hskip
  have hlist := parseValue_list hskip hc hitems
  simp only [printAt, hcs, List.map_append, List.map_cons, List.map_nil,
    List.cons_append, List.append_assoc, List.nil_append]
  exact hlist

/-- An object with members is read back, if the value of each of them is
and nothing is left to join in their names. -/
lemma readsBack_object (hs : style.Sound) {k : Text} {ms : Members}
    (names : (((k, v) :: ms).map Prod.fst).Nodup) (hk : k.joined = k)
    (hv : Writable d v ∧ ReadsBack style d v)
    (hms : ∀ m ∈ ms, m.1.joined = m.1 ∧ Writable d m.2 ∧
      ReadsBack style d m.2) :
    ReadsBack style (d + 1) (.object ((k, v) :: ms)) := by
  intro fuel level rest _ hfuel
  have hw : Writable (d + 1) (.object ((k, v) :: ms)) :=
    .object names (List.forall_mem_cons.mpr
      ⟨hv.1, fun m hm => (hms m hm).2.1⟩)
  obtain ⟨fuel, rfl⟩ := exists_fuel_eq hw hfuel
  simp only [printAt, List.length_append, List.length_cons] at hfuel
  have hpairs := parsePairs_printMembers hs hk hv hms fuel (level + 1) level
    rest (by omega)
  have hskip : ∀ more, skipSpace ((lineStart style (level + 1)).map .char
      ++ ((printString style.asciiOnly k).map .char ++ more))
      = (printString style.asciiOnly k).map .char ++ more := fun more => by
    rw [skipSpace_append fun _ => isSpace_of_mem_lineStart,
      printString_append, skipSpace_cons (by decide)]
  simp only [printString_append] at hpairs hskip
  have hobject := parseValue_object (hskip _) (by decide) hpairs
  rw [Members.ofPairs_of_nodup names] at hobject
  simp only [printAt, List.map_append, List.map_cons, List.map_nil,
    List.cons_append, List.append_assoc, List.nil_append, printString_append]
  exact hobject

/-- A digit begins neither a text nor a list nor an object. -/
lemma not_mem_of_isDigit (hc : c.isDigit) : c ∉ ['"', '[', '{'] := by
  simp only [List.mem_cons, List.not_mem_nil, or_false, not_or]
  exact ⟨ne_of_isDigit hc (by decide), ne_of_isDigit hc (by decide),
    ne_of_isDigit hc (by decide)⟩

/-- A word or a number in writing is read back as a value, if it is as a
scalar. -/
lemma readsBack_of_readScalar {text : List Char} (hv : Writable d v)
    (htext : ∀ level, printAt style level v = text)
    (hstart : ∃ c cs, text = c :: cs ∧ c ∉ ['"', '[', '{'])
    (hread : ∀ rest, EndsNumber rest →
      readScalar (text.map .char ++ rest) = .ok (v, rest)) :
    ReadsBack style d v := by
  intro fuel level rest hrest hfuel
  obtain ⟨fuel, rfl⟩ := exists_fuel_eq hv hfuel
  obtain ⟨c, cs, hcs, hc⟩ := hstart
  have hscalar := hread rest hrest
  simp only [List.mem_cons, List.not_mem_nil, or_false, not_or] at hc
  rw [htext, hcs, List.map_cons, List.cons_append] at *
  rw [parseValue_scalar hc.1 hc.2.1 hc.2.2, hscalar]

/-- A value that can be told from its text is read back. -/
theorem readsBack_of_writable (hs : style.Sound) (hv : Writable d v)
    (hjoined : v.joined = v) : ReadsBack style d v := by
  induction hv with
  | null =>
    have htext : ∀ level, printAt style level .null = "null".toList :=
      fun _ => by rw [printAt]
    exact readsBack_of_readScalar .null htext ⟨'n', _, rfl, by decide⟩
      fun rest _ => readScalar_null rest
  | bool b =>
    refine readsBack_of_readScalar (.bool b) (fun _ => by rw [printAt]) ?_
      fun rest _ => readScalar_bool b rest
    cases b
    · exact ⟨'f', _, rfl, by decide⟩
    · exact ⟨'t', _, rfl, by decide⟩
  | text s =>
    intro fuel level rest _ hfuel
    obtain ⟨fuel, rfl⟩ := exists_fuel_eq (d := 0) (.text s) hfuel
    rw [printAt, printString_append]
    exact parseValue_text
      (parseString_printed _ (Value.text.inj hjoined) rest)
  | @whole d i h =>
    obtain ⟨c, cs, hcs, hc⟩ := exists_cons_ofInt i
    refine readsBack_of_readScalar (.whole h)
      (fun _ => by rw [printAt, printNumber]) ⟨c, cs, hcs, ?_⟩
      fun rest hrest => readScalar_ofInt h hrest
    rcases hc with rfl | hc
    · decide
    · exact not_mem_of_isDigit hc
  | float x =>
    obtain ⟨c, cs, hcs, hc⟩ := exists_cons_float x
    refine readsBack_of_readScalar (.float x) (fun _ => by rw [printAt])
      ⟨c, cs, hcs, ?_⟩ fun rest hrest => readScalar_float x hrest
    rcases hc with hc | hc
    · simp only [List.mem_cons, List.not_mem_nil, or_false] at hc
      rcases hc with rfl | rfl | rfl <;> decide
    · exact not_mem_of_isDigit hc
  | @list d vs h ih =>
    have hvs := Value.joined_list_iff.mp hjoined
    cases vs with
    | nil =>
      intro fuel level rest _ hfuel
      obtain ⟨fuel, rfl⟩ := exists_fuel_eq (.list h) hfuel
      rw [printAt]
      exact parseValue_nil rest
    | cons v vs =>
      exact readsBack_list hs fun w hw => ⟨h w hw, ih w hw (hvs w hw)⟩
  | @object d ms names h ih =>
    have hms := Value.joined_object_iff.mp hjoined
    cases ms with
    | nil =>
      intro fuel level rest _ hfuel
      obtain ⟨fuel, rfl⟩ := exists_fuel_eq (.object names h) hfuel
      rw [printAt]
      exact parseValue_empty rest
    | cons m ms =>
      have hback : ∀ x ∈ m :: ms, x.1.joined = x.1 ∧ Writable d x.2 ∧
          ReadsBack style d x.2 := fun x hx =>
        ⟨(hms x hx).1, h x hx, ih x hx (hms x hx).2⟩
      obtain ⟨⟨hk, hv⟩, hrest⟩ := List.forall_mem_cons.mp hback
      exact readsBack_object hs names hk hv hrest

/-! ### Whole texts -/

/-- A value in writing is read back as the whole of a text. -/
theorem parseBody_printAt (hs : style.Sound) (hv : Writable d v)
    (hjoined : v.joined = v) :
    parseBody d ((printAt style 0 v).map .char) = .ok v := by
  have hskip := skipSpace_printAt hv (List.forall_mem_nil _) style 0 []
  have hread := readsBack_of_writable hs hv hjoined
    (2 * (printAt style 0 v).length + 2) 0 [] endsNumber_nil (by omega)
  simp only [List.map_nil, List.nil_append, List.append_nil] at hskip hread
  rw [parseBody, hskip, List.length_map, hread]
  rfl

/-- The text of a value stands for it, wherever lists and objects may be
nested as deep as they are in the value. -/
theorem parse_print (hs : style.Sound) (hv : Writable d v)
    (hjoined : v.joined = v) : parse d (print style v) = .ok v := by
  obtain ⟨c, cs, hcs, -, -, hc⟩ := exists_cons_printAt hv style 0
  have hmark : c ≠ Char.ofNat 0xFEFF := by
    rintro rfl
    exact absurd hc (by decide)
  have hbody := parseBody_printAt hs hv hjoined
  have hcodes : Text.toList (print style v)
      = (printAt style 0 v).map .char := by
    rw [Text.toList_ofString, print, String.toList_ofList]
  rw [parse, Text.startsWith, hcodes, hbody, hcs]
  simp [hmark]

end ApiBook.Json
