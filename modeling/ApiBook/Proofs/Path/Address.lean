/-
Locations name paths in normal form, and each such path has locations that
name it.

* `IsCanonical`: the paths from the top whose components all lead one step
  down;
* `IsCanonical.ofText_text`, `IsCanonical.normalized_eq_self`: they are read
  back from what is written for them, and already are in normal form;
* `addressOf`: the location of a path on a host;
* `parts_addressOf`: the parts of such a location, its host the local one;
* `toPath_addressOf`: **a location names a path in normal form, and a path in
  normal form is what its own locations name**.
-/
import ApiBook.Proofs.Path.Component
import ApiBook.Proofs.Text.Joined
import ApiBook.Proofs.Text.Percent

namespace ApiBook

namespace Path

/-! ### Normal form -/

/-- A path from the top in normal form: every component leads one step
down. -/
structure IsCanonical (p : Path) : Prop where
  isAbsolute : p.isAbsolute
  isComponent : ∀ s ∈ p.parts, IsComponent s

variable {p : Path}

/-- Such a path is written with one slash at its head, or with two. -/
lemma IsCanonical.text_eq (h : p.IsCanonical) :
    p.root = .single ∧ p.text = Text.ofString "/" ++ Text.join "/" p.parts ∨
      p.root = .double ∧
        p.text = Text.ofString "//" ++ Text.join "/" p.parts := by
  obtain ⟨root, parts⟩ := p
  cases root with
  | relative => exact absurd h.isAbsolute Bool.false_ne_true
  | single => exact .inl ⟨rfl, rfl⟩
  | double => exact .inr ⟨rfl, rfl⟩

/-- Components between slashes are found again. -/
lemma parts_ofText_join {parts : List Text}
    (h : ∀ s ∈ parts, IsComponent s) :
    (ofText (Text.join "/" parts)).parts = parts := by
  cases hparts : parts with
  | nil => decide
  | cons s rest =>
    rw [← hparts]
    have hne : parts.map Text.toList ≠ [] := by simp [hparts]
    have hslash : ∀ cs ∈ parts.map Text.toList, Code.char '/' ∉ cs := by
      simpa using fun s hs => (h s hs).no_slash
    have hidle : ∀ cs ∈ parts.map Text.toList, !isIdle cs := by
      intro cs hcs
      obtain ⟨s, hs, rfl⟩ := List.mem_map.mp hcs
      have hempty : s.toList ≠ [] := fun heq =>
        (h s hs).ne_empty (Text.ext heq)
      have hdot : s.toList ≠ [.char '.'] := fun heq =>
        (h s hs).ne_dot (Text.ext heq)
      simp [isIdle, hempty, hdot]
    have hsep : (Text.ofString "/").toList = [.char '/'] := rfl
    rw [ofText, ofCodes, Text.toList_join, hsep,
      Text.split_intercalate hne hslash, List.filter_eq_self.mpr hidle,
      List.map_map]
    exact List.map_id _

/-- What follows one slash or two is read as if it were alone. -/
lemma ofCodes_of_slash {cs : List Code} (h : cs.head? ≠ some (.char '/')) :
    ofCodes (.char '/' :: cs) = ⟨.single, (ofCodes cs).parts⟩ ∧
      ofCodes (.char '/' :: .char '/' :: cs) =
        ⟨.double, (ofCodes cs).parts⟩ := by
  have hrun : cs.takeWhile (· = Code.char '/') = [] := by
    cases cs with
    | nil => rfl
    | cons c cs => simpa using h
  simp [ofCodes, hrun, Text.split, isIdle, Root.ofSlashes]

/-- A path in normal form is read back from what is written for it. -/
lemma IsCanonical.ofText_text (h : p.IsCanonical) : ofText p.text = p := by
  have hparts := parts_ofText_join h.isComponent
  obtain ⟨hsingle, hdouble⟩ :=
    ofCodes_of_slash (head?_join_ne_slash h.isComponent)
  obtain ⟨root, parts⟩ := p
  rcases h.text_eq with ⟨rfl, htext⟩ | ⟨rfl, htext⟩
  · rw [htext, ofText, Text.toList_append]
    exact hsingle.trans (congrArg (Path.mk .single) hparts)
  · rw [htext, ofText, Text.toList_append]
    exact hdouble.trans (congrArg (Path.mk .double) hparts)

/-- If no component has a surrogate, neither has what is written. -/
lemma IsCanonical.isPlain_text (h : p.IsCanonical)
    (hplain : ∀ s ∈ p.parts, s.isPlain) : p.text.isPlain := by
  have hjoin : (Text.join "/" p.parts).isPlain :=
    Text.isPlain_join (Text.isPlain_ofString _) hplain
  rcases h.text_eq with ⟨-, htext⟩ | ⟨-, htext⟩
  all_goals
    rw [htext, Text.isPlain_append]
    exact ⟨Text.isPlain_ofString _, hjoin⟩

/-- It already is in normal form. -/
lemma IsCanonical.normalized_eq_self (h : p.IsCanonical) :
    p.normalized = p := by
  have hpush : ∀ (parts stack : List Text),
      (∀ s ∈ parts, IsComponent s) →
        parts.foldl (push p.isAbsolute) stack = parts.reverse ++ stack := by
    intro parts
    induction parts with
    | nil => exact fun _ _ => rfl
    | cons s parts ih =>
      intro stack hparts
      obtain ⟨hs, hrest⟩ := List.forall_mem_cons.mp hparts
      have hone : push p.isAbsolute stack s = s :: stack := by
        simp only [push, hs.ne_dots, if_false]
      rw [List.foldl_cons, hone, ih _ hrest, List.reverse_cons,
        List.append_assoc, List.singleton_append]
  rw [normalized, hpush _ _ h.isComponent, List.append_nil,
    List.reverse_reverse]

end Path

namespace Location

variable {p : Path}

/-! ### The location of a path -/

/-- The location of a path on a host: the characters of the path in writing,
all bytes escaped that do not stand for themselves. -/
def addressOf (host : String) (path : List Char) : String :=
  "file://" ++ host ++ String.ofList (Text.percentEncode path)

/-- What the location of a path begins with. -/
lemma toList_addressOf (host : String) (path : List Char) :
    (addressOf host path).toList = ['f', 'i', 'l', 'e', ':', '/', '/'] ++
      (host.toList ++ Text.percentEncode path) := by
  simp [addressOf]

/-- Without control characters and spaces, nothing is left out of a
location. -/
lemma cleaned_eq_self {cs : List Code} (h : ∀ c ∈ cs, 0x20 < c.toNat) :
    cleaned cs = cs := by
  have hhead : cs.dropWhile (·.toNat ≤ 0x20) = cs := by
    cases cs with
    | nil => rfl
    | cons c cs =>
      have hc := h c List.mem_cons_self
      exact List.dropWhile_cons_of_neg (by simpa using hc)
  rw [cleaned, hhead, List.filter_eq_self]
  intro c hc
  have hne : ∀ d : Code, d.toNat ≤ 0x20 → c ≠ d := by
    rintro d hd rfl
    exact absurd (h c hc) (by omega)
  simp [hne (.char '\t') (by decide), hne (.char '\r') (by decide),
    hne (.char '\n') (by decide)]

/-- A host ends where the path begins. -/
lemma splitHost_append {host path : List Code}
    (h : ∀ c ∈ host, !endsHost c) (hpath : path.head? = some (.char '/')) :
    splitHost (.char '/' :: .char '/' :: (host ++ path)) = (host, path) := by
  obtain ⟨rest, rfl⟩ : ∃ rest, path = .char '/' :: rest := by
    cases path with
    | nil => simp at hpath
    | cons c rest => exact ⟨rest, by simpa using hpath⟩
  have hslash : endsHost (.char '/') := by decide
  rw [splitHost, List.takeWhile_append_of_pos h,
    List.dropWhile_append_of_pos h]
  simp [hslash]

/-- No character of an encoded text ends the path of a location. -/
lemma takeWhile_percentEncode {d : Char} (hd : ¬ Text.IsEncoded d)
    (cs : List Char) :
    ((Text.percentEncode cs).map Code.char).takeWhile (· ≠ .char d) =
      (Text.percentEncode cs).map .char := by
  rw [List.takeWhile_eq_self_iff, List.forall_mem_map]
  intro c hc
  have hne : c ≠ d := by
    rintro rfl
    exact hd (Text.isEncoded_of_mem_percentEncode c hc)
  simpa using hne

/-- An encoded path starts at the top like the path. -/
lemma head?_percentEncode_text (h : p.IsCanonical) {cs : List Char}
    (hcs : p.text = .ofChars cs) :
    ((Text.percentEncode cs).map Code.char).head? = some (.char '/') := by
  have hhead : (cs.map Code.char).head? = some (.char '/') := by
    rw [← Text.toList_ofChars, ← hcs]
    rcases h.text_eq with ⟨-, htext⟩ | ⟨-, htext⟩
    all_goals
      rw [htext]
      rfl
  obtain ⟨rest, rfl⟩ : ∃ rest, cs = '/' :: rest := by
    cases cs with
    | nil => simp at hhead
    | cons c rest => exact ⟨rest, by simpa using hhead⟩
  have hslash : (Text.encodeUtf8Char '/').flatMap Text.percentByte = ['/'] := by
    decide
  rw [Text.percentEncode, Text.encodeUtf8, List.flatMap_cons,
    List.flatMap_append, hslash]
  rfl

/-- What stands for this machine in a location: nothing in it ends the host
or is left out, and it is not objected to. -/
lemma of_localHost {host : String} (h : host = "" ∨ host = "localhost") :
    isLocal (Text.ofString host).toList ∧
      checkHost (Text.ofString host).toList = .ok () ∧
      (Text.ofString host).toList.all (!endsHost ·) ∧
      (Text.ofString host).toList.all (0x20 < ·.toNat) := by
  rcases h with rfl | rfl <;> decide

/-- The parts of the location of a path. -/
lemma parts_addressOf (h : p.IsCanonical) {cs : List Char}
    (hcs : p.text = .ofChars cs) {host : String}
    (hhost : host = "" ∨ host = "localhost") :
    parts (Text.ofString (addressOf host cs)).toList =
      .ok ⟨fileScheme.toList, (Text.ofString host).toList,
        (Text.percentEncode cs).map .char⟩ := by
  obtain ⟨-, hcheck, hends, hvisible⟩ := of_localHost hhost
  have htext : (Text.ofString (addressOf host cs)).toList =
      ['f', 'i', 'l', 'e', ':', '/', '/'].map Code.char ++
        ((Text.ofString host).toList ++
          (Text.percentEncode cs).map .char) := by
    rw [Text.toList_ofString, toList_addressOf, List.map_append,
      List.map_append, Text.toList_ofString]
  have hhead : (['f', 'i', 'l', 'e', ':', '/', '/'].map Code.char).all
      (0x20 < ·.toNat) := by
    decide
  have hencoded : ∀ c ∈ (Text.percentEncode cs).map Code.char,
      0x20 < c.toNat := List.forall_mem_map.mpr fun c hc =>
    (Text.isEncoded_of_mem_percentEncode c hc).bounds.1
  have hcleaned : cleaned (Text.ofString (addressOf host cs)).toList =
      (Text.ofString (addressOf host cs)).toList := by
    refine cleaned_eq_self fun c hc => ?_
    rw [htext] at hc
    rcases List.mem_append.mp hc with hc | hc
    · exact of_decide_eq_true (List.all_eq_true.mp hhead c hc)
    rcases List.mem_append.mp hc with hc | hc
    · exact of_decide_eq_true (List.all_eq_true.mp hvisible c hc)
    · exact hencoded c hc
  have hscheme : splitScheme (Text.ofString (addressOf host cs)).toList =
      (fileScheme.toList, .char '/' :: .char '/' ::
        ((Text.ofString host).toList ++
          (Text.percentEncode cs).map .char)) := by
    rw [htext]
    rfl
  rw [parts, hcleaned, hscheme]
  dsimp only
  rw [splitHost_append (List.all_eq_true.mp hends)
    (head?_percentEncode_text h hcs)]
  dsimp only
  rw [hcheck, takeWhile_percentEncode (by decide),
    takeWhile_percentEncode (by decide)]
  rfl

/-- A path in normal form is what its locations on this machine name. -/
lemma toPath_addressOf_of_isCanonical (h : p.IsCanonical) {cs : List Char}
    (hcs : p.text = .ofChars cs) {host : String}
    (hhost : host = "" ∨ host = "localhost") :
    toPath (addressOf host cs) = .ok p := by
  obtain ⟨hlocal, -⟩ := of_localHost hhost
  have hpath : (Path.ofCodes (Text.percentDecode
      ((Text.percentEncode cs).map .char))).normalized = p := by
    rw [Text.percentDecode_percentEncode, ← Text.toList_ofChars, ← hcs]
    exact (congrArg Path.normalized h.ofText_text).trans h.normalized_eq_self
  rw [toPath, parts_addressOf h hcs hhost]
  simp only [hlocal, hpath, h.isAbsolute]
  simp

/-- **Locations name paths in normal form, and every such path is named.**
What a location names is a path from the top whose components all lead one
step down; it is written with one slash at its head or with exactly two, and
its components between slashes. Any path of this kind is read back from what is
written for it. If it has no surrogates, it is what its location names, be it
without a host or on the host `localhost`, whichever characters its components
are made of; a surrogate has no bytes that could stand in a location. -/
theorem toPath_addressOf :
    (∀ uri p, toPath uri = .ok p → p.IsCanonical ∧
      (p.text = Text.ofString "/" ++ Text.join "/" p.parts ∨
        p.text = Text.ofString "//" ++ Text.join "/" p.parts) ∧
      (Text.join "/" p.parts).toList.head? ≠ some (.char '/')) ∧
    ∀ p : Path, p.IsCanonical → Path.ofText p.text = p ∧
      ((∀ s ∈ p.parts, s.isPlain) → ∃ cs, p.text = .ofChars cs ∧
        toPath (addressOf "" cs) = .ok p ∧
        toPath (addressOf "localhost" cs) = .ok p) := by
  refine ⟨fun uri p h => ?_, fun p h => ⟨h.ofText_text, fun hplain => ?_⟩⟩
  · have hp : p.IsCanonical :=
      ⟨Path.isAbsolute_of_toPath h, Path.isComponent_of_toPath h⟩
    exact ⟨hp, hp.text_eq.imp And.right And.right,
      Path.head?_join_ne_slash hp.isComponent⟩
  · obtain ⟨cs, hcs⟩ :=
      Text.exists_chars_of_isPlain (h.isPlain_text hplain)
    exact ⟨cs, hcs, toPath_addressOf_of_isCanonical h hcs (.inl rfl),
      toPath_addressOf_of_isCanonical h hcs (.inr rfl)⟩

/-- A path with two slashes at its head, its names made of marks that have a
meaning in locations, white space, and characters beyond ASCII. -/
def awkwardPath : Path :=
  ⟨.double, ["a b%2F?c#d", ";[::1]\\", "\t\r\n", "é漢😀", "..."]⟩

/-- The path is what its locations name, and so it is written as it should
be. -/
theorem toPath_addressOf_awkwardPath :
    awkwardPath.IsCanonical ∧ ∃ cs, awkwardPath.text = .ofChars cs ∧
      toPath (addressOf "" cs) = .ok awkwardPath ∧
      toPath (addressOf "localhost" cs) = .ok awkwardPath ∧
      awkwardPath.text =
        Text.ofString "//" ++ Text.join "/" awkwardPath.parts := by
  have hparts : ∀ s ∈ awkwardPath.parts, s.isPlain ∧
      s ≠ ("" : Text) ∧ s ≠ ("." : Text) ∧ s ≠ (".." : Text) ∧
        Code.char '/' ∉ s.toList := by
    decide
  have hcanonical : awkwardPath.IsCanonical :=
    ⟨rfl, fun s hs => by
      obtain ⟨-, hempty, hdot, hdots, hslash⟩ := hparts s hs
      exact ⟨hempty, hdot, hdots, hslash⟩⟩
  obtain ⟨hnamed, hnames⟩ := toPath_addressOf
  obtain ⟨cs, hcs, hlocal, hlocalhost⟩ :=
    (hnames awkwardPath hcanonical).2 fun s hs => (hparts s hs).1
  obtain ⟨-, htext, -⟩ := hnamed _ _ hlocal
  exact ⟨hcanonical, cs, hcs, hlocal, hlocalhost,
    htext.resolve_left (by decide)⟩

/-- The bytes that are escaped. -/
example : addressOf "" "/a b/é".toList = "file:///a%20b/%C3%A9" := by
  decide

end Location

end ApiBook
