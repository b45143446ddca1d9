import ImageOwnership.Proofs.Url.Below
import Mathlib.Data.List.TakeWhile

/-!
Hosts that are written out. An address that begins with the plain scheme, a name and a colon leads to
that name, unless what stands before an at sign is the user of another host.
-/

namespace ImageOwnership.Url

/-! ### Users -/

theorem splitLast_of_notMem {separator : Char} {text : List Char} (absent : separator ∉ text) :
    splitLast separator text = (none, text) := by
  have passed : text.reverse.dropWhile (· ≠ separator) = [] := by
    rw [List.dropWhile_eq_nil_iff]
    intro char member
    rw [List.mem_reverse] at member
    simp only [ne_eq, decide_eq_true_eq]
    rintro rfl
    exact absent member
  simp only [splitLast, passed]

theorem splitLast_of_mem {separator : Char} {text : List Char} (present : separator ∈ text) :
    ∃ before after, splitLast separator text = (some before, after) ∧
      text = before ++ separator :: after := by
  have stops := List.head?_dropWhile_not (· ≠ separator) text.reverse
  cases back : text.reverse.dropWhile (· ≠ separator) with
  | nil =>
      have passed := List.dropWhile_eq_nil_iff.mp back separator (List.mem_reverse.mpr present)
      simp at passed
  | cons first before =>
      rw [back] at stops
      have here : first = separator := by simpa using stops
      subst here
      have whole := List.takeWhile_append_dropWhile (p := (· ≠ first)) (l := text.reverse)
      rw [back] at whole
      refine ⟨before.reverse, (text.reverse.takeWhile (· ≠ first)).reverse, ?_, ?_⟩
      · simp only [splitLast, back]
      · have turned := congrArg List.reverse whole
        simpa using turned.symm

theorem encodeChar_ne_nil (keeps : Char → Bool) (char : Char) : Percent.encodeChar keeps char ≠ [] := by
  unfold Percent.encodeChar
  split
  · simp
  · cases bytes : Utf8.encodeChar char with
    | nil => simp [Utf8.encodeChar] at bytes
    | cons first rest => simp [Percent.encodeByte]

theorem encode_eq_nil {keeps : Char → Bool} {text : List Char}
    (empty : Percent.encode keeps text = []) : text = [] := by
  cases text with
  | nil => rfl
  | cons first rest =>
      have front := (List.append_eq_nil_iff.mp empty).1
      exact absurd front (encodeChar_ne_nil keeps first)

/-! ### Names -/

/-- What no name holds: the marks that divide an authority from the rest and from each other. -/
def isMark (char : Char) : Bool :=
  endsAuthority char || char = '@' || char = ':' || char = '['

/-- An address of the plain scheme whose authority begins with a name and a colon. -/
def named (name rest : List Char) : List Char :=
  "http://".toList ++ (name ++ ':' :: rest)

variable {name rest : List Char}

theorem splitHost_name (unmarked : ∀ char ∈ name, isMark char = false) (more : List Char) :
    (splitHost (name ++ ':' :: more)).1 = name := by
  have kept : ∀ char ∈ name, (decide (char ≠ ':')) = true := by
    intro char member
    have plain := unmarked char member
    simp only [isMark, Bool.or_eq_false_iff, decide_eq_false_iff_not] at plain
    simpa using plain.1.2
  have front : (name ++ ':' :: more).takeWhile (· ≠ ':') = name := by
    rw [takeWhile_append_stop (· ≠ ':') (by simp), List.takeWhile_eq_self_iff.mpr kept]
  cases name with
  | nil => rfl
  | cons first others =>
      have plain := unmarked first List.mem_cons_self
      simp only [isMark, Bool.or_eq_false_iff, decide_eq_false_iff_not] at plain
      have unbracketed : first ≠ '[' := plain.2
      rw [List.cons_append] at front ⊢
      simp only [splitHost]
      split
      · rename_i same
        exact absurd (List.cons.inj same).1 unbracketed
      · exact front

theorem split_named (unmarked : ∀ char ∈ name, isMark char = false) (some : name ≠ [])
    (anonymous : (split (named name rest)).userinfo = []) :
    (split (named name rest)).host = name := by
  have inside : (name ++ ':' :: rest).takeWhile (!endsAuthority ·) =
      name ++ ':' :: rest.takeWhile (!endsAuthority ·) := by
    rw [List.takeWhile_append_of_pos]
    · rfl
    · intro char member
      have plain := unmarked char member
      simp only [isMark, Bool.or_eq_false_iff] at plain
      simp [plain.1.1.1]
  have parts : split (named name rest) = ofAuthority "http".toList
      ((name ++ ':' :: rest).takeWhile (!endsAuthority ·)) (split (named name rest)).path
      (split (named name rest)).query (split (named name rest)).fragment := rfl
  rw [parts, inside] at anonymous ⊢
  simp only [ofAuthority] at anonymous ⊢
  -- If there is an at sign, a user stands before it, because the name does.
  by_cases user : '@' ∈ name ++ ':' :: rest.takeWhile (!endsAuthority ·)
  · obtain ⟨before, after, last, whole⟩ := splitLast_of_mem user
    rw [last] at anonymous
    have empty : before = [] := anonymous
    obtain ⟨first, others, rfl⟩ := List.exists_cons_of_ne_nil some
    rw [empty] at whole
    have same : first = '@' := (List.cons.inj whole).1
    have plain := unmarked first List.mem_cons_self
    rw [same] at plain
    simp [isMark] at plain
  · rw [splitLast_of_notMem user]
    exact splitHost_name unmarked _

theorem parse_named {names : HostNames} {text : String} {address : Url}
    (begins : text.toList = named name rest) (unmarked : ∀ char ∈ name, isMark char = false)
    (normal : normalHost names name = .ok name) (some : name ≠ [])
    (read : parse names text = .ok address) (anonymous : address.userinfo = "") :
    address.host = String.ofList name := by
  obtain ⟨_, _, parts⟩ := parse_eq_ok_iff.mp read
  obtain ⟨host, port, hosted, _, _, rfl⟩ := ofParts_eq_ok_iff.mp parts
  rw [begins] at hosted anonymous
  have empty : (split (named name rest)).userinfo = [] :=
    encode_eq_nil (String.ofList_inj.mp anonymous)
  rw [split_named unmarked some empty, normal] at hosted
  cases hosted
  rfl

end ImageOwnership.Url
