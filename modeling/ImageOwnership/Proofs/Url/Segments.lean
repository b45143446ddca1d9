import ImageOwnership.Image.Reference
import ImageOwnership.Proofs.Url.Below
import Mathlib.Data.List.TakeWhile

/-!
Paths that stay as they are written. A text that follows an authority is all path, segment by segment,
exactly when it has no mark of a query or a fragment and no segment of dots.
-/

namespace ImageOwnership.Url

/-- A text without a mark that ends a path and without segments of dots. -/
def IsPlain (text : List Char) : Prop :=
  '?' ∉ text ∧ '#' ∉ text ∧ ['.'] ∉ text.splitOn '/' ∧ ['.', '.'] ∉ text.splitOn '/'

instance (text : List Char) : Decidable (IsPlain text) :=
  inferInstanceAs (Decidable (_ ∧ _ ∧ _ ∧ _))

theorem isPlain_append {before after : List Char} :
    IsPlain (before ++ '/' :: after) ↔ IsPlain before ∧ IsPlain after := by
  simp only [IsPlain, List.splitOn_append_cons_self, List.mem_append, List.mem_cons, not_or]
  constructor
  · rintro ⟨⟨query, _, query'⟩, ⟨fragment, _, fragment'⟩, ⟨dot, dot'⟩, dots, dots'⟩
    exact ⟨⟨query, fragment, dot, dots⟩, query', fragment', dot', dots'⟩
  · rintro ⟨⟨query, fragment, dot, dots⟩, query', fragment', dot', dots'⟩
    exact ⟨⟨query, by decide, query'⟩, ⟨fragment, by decide, fragment'⟩, ⟨dot, dot'⟩, dots, dots'⟩

/-! ### Segments of dots -/

theorem keepSegment_of_plain {kept : List (List Char)} {segment : List Char} (dot : segment ≠ ['.'])
    (dots : segment ≠ ['.', '.']) : keepSegment kept segment = segment :: kept := by
  simp [keepSegment, dot, dots]

theorem foldl_keepSegment_of_plain {segments kept : List (List Char)} (dot : ['.'] ∉ segments)
    (dots : ['.', '.'] ∉ segments) :
    segments.foldl keepSegment kept = segments.reverse ++ kept := by
  induction segments generalizing kept with
  | nil => rfl
  | cons first rest ih =>
      simp only [List.mem_cons, not_or] at dot dots
      rw [List.foldl_cons, keepSegment_of_plain (Ne.symm dot.1) (Ne.symm dots.1),
        ih dot.2 dots.2]
      simp

theorem withoutDots_of_plain {path : List Char} (dot : ['.'] ∉ path.splitOn '/')
    (dots : ['.', '.'] ∉ path.splitOn '/') : withoutDots path = path := by
  rw [withoutDots, foldl_keepSegment_of_plain dot dots, List.append_nil, List.reverse_reverse,
    List.intercalate_splitOn]

/-- The segments kept of a rooted path: the first of them is empty, and none holds a slash. -/
structure Rooted (kept : List (List Char)) : Prop where
  first : kept.getLast? = some []
  slashless : ∀ segment ∈ kept, '/' ∉ segment

theorem Rooted.keepSegment {kept : List (List Char)} (rooted : Rooted kept) {segment : List Char}
    (slashless : '/' ∉ segment) : Rooted (keepSegment kept segment) := by
  obtain ⟨first, others⟩ := rooted
  unfold Url.keepSegment
  split
  · exact ⟨first, others⟩
  · split
    · split
      · exact ⟨first, others⟩
      · rename_i more
        match kept with
        | [] => cases first
        | [only] =>
            have empty : only = [] := by simpa using first
            exact absurd (congrArg (fun segment => [segment]) empty) more
        | one :: two :: rest =>
            exact ⟨first, fun segment member => others segment (List.mem_cons_of_mem _ member)⟩
    · refine ⟨?_, ?_⟩
      · cases kept with
        | nil => cases first
        | cons one rest => exact first
      · intro other member
        obtain rfl | later := List.mem_cons.mp member
        · exact slashless
        · exact others other later

theorem length_keepSegment_le (kept : List (List Char)) (segment : List Char) :
    (keepSegment kept segment).length ≤ kept.length + 1 := by
  unfold keepSegment
  split
  · omega
  · split
    · split
      · omega
      · simp only [List.length_drop]
        omega
    · simp

theorem length_keepSegment_of_dots (kept : List (List Char)) {segment : List Char}
    (dots : segment = ['.'] ∨ segment = ['.', '.']) :
    (keepSegment kept segment).length ≤ kept.length := by
  obtain rfl | rfl := dots
  · simp [keepSegment]
  · simp only [keepSegment, List.cons.injEq, reduceCtorEq, and_false, if_false, if_true]
    split
    · exact Nat.le_refl _
    · simp only [List.length_drop]
      omega

theorem length_foldl_keepSegment_le (segments kept : List (List Char)) :
    (segments.foldl keepSegment kept).length ≤ kept.length + segments.length := by
  induction segments generalizing kept with
  | nil => simp
  | cons first rest ih =>
      have one := length_keepSegment_le kept first
      have others := ih (keepSegment kept first)
      simp only [List.foldl_cons, List.length_cons]
      omega

theorem length_foldl_keepSegment_lt {segments : List (List Char)} (kept : List (List Char))
    (dots : ['.'] ∈ segments ∨ ['.', '.'] ∈ segments) :
    (segments.foldl keepSegment kept).length < kept.length + segments.length := by
  induction segments generalizing kept with
  | nil => simp at dots
  | cons first rest ih =>
      simp only [List.foldl_cons, List.length_cons]
      by_cases here : first = ['.'] ∨ first = ['.', '.']
      · have fewer := length_keepSegment_of_dots kept here
        have others := length_foldl_keepSegment_le rest (keepSegment kept first)
        omega
      · have later : ['.'] ∈ rest ∨ ['.', '.'] ∈ rest := by
          obtain dot | dots := dots
          · exact .inl ((List.mem_cons.mp dot).resolve_left fun same => here (.inl same.symm))
          · exact .inr ((List.mem_cons.mp dots).resolve_left fun same => here (.inr same.symm))
        have one := length_keepSegment_le kept first
        have others := ih (keepSegment kept first) later
        omega

theorem Rooted.foldl {segments kept : List (List Char)} (rooted : Rooted kept)
    (slashless : ∀ segment ∈ segments, '/' ∉ segment) : Rooted (segments.foldl Url.keepSegment kept) := by
  induction segments generalizing kept with
  | nil => exact rooted
  | cons first rest ih =>
      exact ih (rooted.keepSegment (slashless first List.mem_cons_self))
        fun segment member => slashless segment (List.mem_cons_of_mem _ member)

theorem count_intercalate {segments : List (List Char)} (some : segments ≠ [])
    (slashless : ∀ segment ∈ segments, '/' ∉ segment) :
    (['/'].intercalate segments).count '/' + 1 = segments.length := by
  rw [← Image.Repository.length_splitOn '/', List.splitOn_intercalate '/' slashless some]

theorem slashless_of_mem_splitOn {text segment : List Char} (member : segment ∈ text.splitOn '/') :
    '/' ∉ segment := by
  induction text generalizing segment with
  | nil =>
      have empty : segment = [] := by simpa using member
      simp [empty]
  | cons first rest ih =>
      rw [List.splitOn_cons_eq_if_modifyHead] at member
      by_cases slash : first = '/'
      · simp only [slash, beq_self_eq_true, if_true, List.mem_cons] at member
        obtain rfl | later := member
        · simp
        · exact ih later
      · simp only [beq_iff_eq, slash, if_false] at member
        cases pieces : rest.splitOn '/' with
        | nil => simp [pieces] at member
        | cons piece others =>
            rw [pieces, List.modifyHead_cons] at member
            obtain rfl | later := List.mem_cons.mp member
            · have inner : '/' ∉ piece := ih (by simp [pieces])
              simp [inner, Ne.symm slash]
            · exact ih (by simp [pieces, later])

theorem count_withoutDots_lt {path : List Char} (rooted : path.head? = some '/')
    (dots : ['.'] ∈ path.splitOn '/' ∨ ['.', '.'] ∈ path.splitOn '/') :
    (withoutDots path).count '/' < path.count '/' := by
  obtain ⟨rest, rfl⟩ := List.head?_eq_some_iff.mp rooted
  have segments : ('/' :: rest).splitOn '/' = [] :: rest.splitOn '/' := by
    rw [List.splitOn_cons_eq_if_modifyHead]
    simp
  have later : ['.'] ∈ rest.splitOn '/' ∨ ['.', '.'] ∈ rest.splitOn '/' := by
    simpa [segments] using dots
  have first : Rooted [[]] := ⟨rfl, by simp⟩
  have kept : Rooted ((rest.splitOn '/').foldl keepSegment [[]]) :=
    first.foldl fun segment member => slashless_of_mem_splitOn member
  have fewer := length_foldl_keepSegment_lt [[]] later
  have whole := Image.Repository.length_splitOn '/' rest
  have some : ((rest.splitOn '/').foldl keepSegment [[]]).reverse ≠ [] := by
    intro nothing
    rw [List.reverse_eq_nil_iff] at nothing
    rw [nothing] at kept
    cases kept.first
  have counted := count_intercalate some (by simpa using kept.slashless)
  have same : withoutDots ('/' :: rest) =
      ['/'].intercalate ((rest.splitOn '/').foldl keepSegment [[]]).reverse := by
    rw [withoutDots, segments]
    rfl
  rw [same]
  simp only [List.length_reverse, List.length_cons, List.length_nil, List.count_cons_self] at *
  omega

/-! ### Encoding -/

theorem hexDigit_ne_slash : ∀ value < 16, Percent.hexDigit value ≠ '/' := by
  decide

theorem slash_notMem_encodeByte (byte : UInt8) : '/' ∉ Percent.encodeByte byte := by
  have high : byte.toNat / 16 < 16 := by
    have bounded := byte.toNat_lt
    omega
  have low : byte.toNat % 16 < 16 := Nat.mod_lt _ (by decide)
  have first := hexDigit_ne_slash _ high
  have second := hexDigit_ne_slash _ low
  simp [Percent.encodeByte, Ne.symm first, Ne.symm second]

theorem count_encodeChar (char : Char) :
    (Percent.encodeChar pathKeeps char).count '/' = [char].count '/' := by
  unfold Percent.encodeChar
  split
  · rfl
  · rename_i unsafely
    have other : char ≠ '/' := by
      rintro rfl
      exact unsafely (by decide)
    have absent : '/' ∉ (Utf8.encodeChar char).flatMap Percent.encodeByte := by
      simp only [List.mem_flatMap, not_exists, not_and]
      exact fun byte _ => slash_notMem_encodeByte byte
    simp [List.count_eq_zero_of_not_mem absent, other]

theorem count_encode (path : List Char) :
    (Percent.encode pathKeeps path).count '/' = path.count '/' := by
  induction path with
  | nil => rfl
  | cons first rest ih =>
      have split : Percent.encode pathKeeps (first :: rest) =
          Percent.encodeChar pathKeeps first ++ Percent.encode pathKeeps rest := rfl
      rw [split, List.count_append, count_encodeChar, ih, ← List.count_append]
      rfl

theorem encode_withoutDots_iff {path : List Char} (rooted : path.head? = some '/') :
    Percent.encode pathKeeps (withoutDots path) = Percent.encode pathKeeps path ↔
      ['.'] ∉ path.splitOn '/' ∧ ['.', '.'] ∉ path.splitOn '/' := by
  constructor
  · -- Encoding may make different texts alike, but it keeps the number of slashes.
    intro same
    by_contra dots
    rw [← not_or, not_not] at dots
    have fewer := count_withoutDots_lt rooted dots
    have counted := congrArg (List.count '/') same
    rw [count_encode, count_encode] at counted
    omega
  · intro plain
    rw [withoutDots_of_plain plain.1 plain.2]

/-! ### Paths as they are written -/

theorem Parts.withPath_bare_iff {parts : Parts} {text : List Char} :
    (parts.withPath text).query = none ∧ (parts.withPath text).fragment = none ↔
      '?' ∉ text ∧ '#' ∉ text := by
  induction text with
  | nil => simp [withPath, splitQuery, splitFragment]
  | cons first rest ih =>
      by_cases query : first = '?'
      · simp [withPath, splitQuery, query]
      · by_cases fragment : first = '#'
        · simp [withPath, splitFragment, fragment]
        · have onward : (parts.withPath (first :: rest)).query = (parts.withPath rest).query ∧
              (parts.withPath (first :: rest)).fragment = (parts.withPath rest).fragment := by
            simp [withPath, query, fragment]
          rw [onward.1, onward.2, ih]
          simp [Ne.symm query, Ne.symm fragment]

theorem Parts.path_withPath {parts : Parts} {text : List Char} (query : '?' ∉ text)
    (fragment : '#' ∉ text) : (parts.withPath text).path = text := by
  have kept : ∀ char ∈ text, (char ≠ '?' && char ≠ '#') = true := by
    intro char member
    have first : char ≠ '?' := fun same => query (same ▸ member)
    have second : char ≠ '#' := fun same => fragment (same ▸ member)
    simp [first, second]
  exact List.takeWhile_eq_self_iff.mpr kept

/-- What is written after a host is the whole path of the address, and all that the address asks for,
exactly when it is plain. -/
theorem Parts.normal_plain_iff (parts : Parts) {host : List Char} (port : Option Int)
    (text : List Char) (hosted : host ≠ []) (rooted : text.head? = some '/') :
    (((parts.withPath text).normal host port).path =
        String.ofList (Percent.encode pathKeeps text) ∧
      ((parts.withPath text).normal host port).query = none ∧
      ((parts.withPath text).normal host port).fragment = none) ↔ IsPlain text := by
  have authority : (parts.withPath text).hasAuthority host port = true := by
    simp [hasAuthority, hosted]
  simp only [normal, authority, Bool.or_true, if_true, Option.map_eq_none_iff,
    String.ofList_inj]
  rw [Parts.withPath_bare_iff]
  constructor
  · rintro ⟨path, query, fragment⟩
    rw [Parts.path_withPath query fragment, encode_withoutDots_iff rooted] at path
    exact ⟨query, fragment, path.1, path.2⟩
  · rintro ⟨query, fragment, dot, dots⟩
    refine ⟨?_, query, fragment⟩
    rw [Parts.path_withPath query fragment, encode_withoutDots_iff rooted]
    exact ⟨dot, dots⟩

end ImageOwnership.Url
