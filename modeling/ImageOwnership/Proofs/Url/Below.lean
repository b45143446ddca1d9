import ImageOwnership.Proofs.Url.Splitting

/-!
Reading addresses below an origin. An address that is written as an origin and a path is read with the
scheme, the user information, the host and the port of the origin; and an origin before such an address
can be read by itself.
-/

namespace ImageOwnership.Url

/-! ### What is read -/

/-- Whether the parts name an authority, given the host and the port in normal form. -/
def Parts.hasAuthority (parts : Parts) (host : List Char) (port : Option Int) : Bool :=
  !(Percent.encode userinfoKeeps parts.userinfo).isEmpty || !host.isEmpty || port.isSome

/-- The address of the parts, given the host and the port in normal form. -/
def Parts.normal (parts : Parts) (host : List Char) (port : Option Int) : Url where
  scheme := String.ofList (parts.scheme.map Char.toLower)
  userinfo := String.ofList (Percent.encode userinfoKeeps parts.userinfo)
  host := String.ofList host
  port := port
  path :=
    String.ofList (Percent.encode pathKeeps
      (if !(parts.scheme.map Char.toLower).isEmpty || parts.hasAuthority host port
        then withoutDots parts.path else parts.path))
  query := parts.query.map (String.ofList ∘ Percent.encode queryKeeps)
  fragment := parts.fragment.map (String.ofList ∘ Percent.encode fragmentKeeps)

variable {names : HostNames}

theorem ofParts_eq_ok_iff {parts : Parts} {url : Url} :
    ofParts names parts = .ok url ↔
      ∃ host port, normalHost names parts.host = .ok host ∧
        normalPort parts.scheme parts.port = .ok port ∧
        checkPath (!(parts.scheme.map Char.toLower).isEmpty) (parts.hasAuthority host port)
          parts.path = .ok () ∧
        url = parts.normal host port := by
  simp only [ofParts, Result.bind_eq_ok]
  constructor
  · intro read
    obtain ⟨host, hosted, port, ported, _, checked, same⟩ := read
    cases same
    exact ⟨host, port, hosted, ported, checked, rfl⟩
  · intro parts
    obtain ⟨host, port, hosted, ported, checked, rfl⟩ := parts
    exact ⟨host, hosted, port, ported, (), checked, rfl⟩

/-- An address that is put together from texts is the one of its parts. -/
theorem ofParts_of_ofTexts {scheme authority path : String} {query fragment : Option String} {url : Url}
    (put : ofTexts names scheme authority path query fragment none = .ok url) :
    ofParts names (ofAuthority scheme.toList authority.toList path.toList (query.map String.toList)
      (fragment.map String.toList)) = .ok url := by
  unfold ofTexts at put
  obtain ⟨_, _, put⟩ := Result.bind_eq_ok.mp put
  obtain ⟨_, _, put⟩ := Result.bind_eq_ok.mp put
  obtain ⟨_, _, put⟩ := Result.bind_eq_ok.mp put
  obtain ⟨_, _, put⟩ := Result.bind_eq_ok.mp put
  obtain ⟨_, _, put⟩ := Result.bind_eq_ok.mp put
  exact put

theorem query_withQuery {url given : Url} {query : String}
    (replaced : url.withQuery names query = .ok given) :
    given.query = some (String.ofList (Percent.encode queryKeeps query.toList)) := by
  obtain ⟨host, port, _, _, _, rfl⟩ := ofParts_eq_ok_iff.mp (ofParts_of_ofTexts replaced)
  rfl

theorem firstControl?_eq_none_iff {text : List Char} :
    firstControl? text = none ↔ ∀ char ∈ text, isAsciiControl char = false := by
  simp [firstControl?]

theorem parse_eq_ok_iff {text : String} {url : Url} :
    parse names text = .ok url ↔
      text.toList.length ≤ lengthLimit ∧ (∀ char ∈ text.toList, isAsciiControl char = false) ∧
        ofParts names (split text.toList) = .ok url := by
  rw [← firstControl?_eq_none_iff]
  unfold parse
  by_cases long : text.toList.length > lengthLimit
  · simp [long, Nat.not_le.mpr long]
  · simp only [long, if_false, Nat.not_lt.mp long, true_and]
    cases firstControl? text.toList with
    | none => simp
    | some found => simp

/-- The tables of names are not asked about an ASCII host. -/
theorem normalHost_ascii {host : List Char} (plain : isAscii host = true) (names others : HostNames) :
    normalHost names host = normalHost others host := by
  simp only [normalHost, plain, if_true]

theorem parse_ascii {text : String} (plain : isAscii (split text.toList).host = true)
    (names others : HostNames) : parse names text = parse others text := by
  simp only [parse, ofParts, normalHost_ascii plain names others]

/-! ### Below an origin -/

/-- Two addresses that lead to the same place, whatever they ask for there. -/
structure SameAuthority (first second : Url) : Prop where
  scheme : first.scheme = second.scheme
  userinfo : first.userinfo = second.userinfo
  host : first.host = second.host
  port : first.port = second.port

variable {origin rest : String} {url address : Url}

theorem parse_below (last : origin.toList.getLast? ≠ some '/') (first : rest.toList.head? ≠ some '/')
    (read : parse names (origin ++ "/" ++ rest) = .ok url) :
    ∃ host port, normalHost names (split origin.toList).host = .ok host ∧
      normalPort (split origin.toList).scheme (split origin.toList).port = .ok port ∧
      url = ((split origin.toList).withPath
        (afterAuthority origin.toList ++ '/' :: rest.toList)).normal host port := by
  obtain ⟨_, _, parts⟩ := parse_eq_ok_iff.mp read
  have chars : (origin ++ "/" ++ rest).toList = origin.toList ++ '/' :: rest.toList := by simp
  rw [chars, split_append last first] at parts
  obtain ⟨host, port, hosted, ported, _, same⟩ := ofParts_eq_ok_iff.mp parts
  exact ⟨host, port, hosted, ported, same⟩

theorem sameAuthority_below (last : origin.toList.getLast? ≠ some '/')
    (first : rest.toList.head? ≠ some '/') (whole : parse names origin = .ok address)
    (read : parse names (origin ++ "/" ++ rest) = .ok url) : url.SameAuthority address := by
  obtain ⟨_, _, parts⟩ := parse_eq_ok_iff.mp whole
  obtain ⟨host, port, hosted, ported, _, rfl⟩ := ofParts_eq_ok_iff.mp parts
  obtain ⟨_, _, again, too, rfl⟩ := parse_below last first read
  rw [hosted] at again
  rw [ported] at too
  cases again
  cases too
  exact ⟨rfl, rfl, rfl, rfl⟩

theorem checkPath_of_authority {hasScheme : Bool} {path : List Char}
    (rooted : path = [] ∨ path.head? = some '/') : checkPath hasScheme true path = .ok () := by
  obtain rfl | slash := rooted
  · simp [checkPath]
  · simp [checkPath, slash]

theorem rooted_of_host {text : List Char} (named : (split text).host ≠ []) :
    (split text).path = [] ∨ (split text).path.head? = some '/' := by
  by_cases marked : ∃ others, (splitScheme text).2 = '/' :: '/' :: others
  · -- The path begins with what ended the authority, unless that was a mark of its own.
    obtain ⟨others, same⟩ := marked
    have stops := List.head?_dropWhile_not (!endsAuthority ·) others
    have path : (split text).path =
        (others.dropWhile (!endsAuthority ·)).takeWhile fun char => char ≠ '?' && char ≠ '#' := by
      rw [split_eq_withPath, Parts.withPath, afterAuthority, same]
      rfl
    rw [path]
    cases after : others.dropWhile (!endsAuthority ·) with
    | nil => exact .inl rfl
    | cons char more =>
        rw [after] at stops
        have ending : endsAuthority char = true := by simpa using stops
        simp only [endsAuthority, Bool.or_eq_true, decide_eq_true_eq] at ending
        obtain (rfl | rfl) | rfl := ending
        · exact .inr rfl
        · exact .inl rfl
        · exact .inl rfl
  · have unmarked := splitAuthority_unmarked fun others same => marked ⟨others, same⟩
    simp only [split, unmarked] at named
    exact absurd rfl named

/-- What stands before the path of an address with a host can be read by itself. -/
theorem parse_origin (last : origin.toList.getLast? ≠ some '/') (first : rest.toList.head? ≠ some '/')
    (read : parse names (origin ++ "/" ++ rest) = .ok url) (hosted : url.host ≠ "") :
    ∃ address, parse names origin = .ok address := by
  obtain ⟨short, plain, _⟩ := parse_eq_ok_iff.mp read
  obtain ⟨host, port, named, ported, rfl⟩ := parse_below last first read
  have chars : (origin ++ "/" ++ rest).toList = origin.toList ++ '/' :: rest.toList := by simp
  rw [chars] at short plain
  have present : host ≠ [] := by
    rintro rfl
    exact hosted rfl
  have authority : (split origin.toList).hasAuthority host port = true := by
    simp [Parts.hasAuthority, present]
  have written : (split origin.toList).host ≠ [] := by
    intro empty
    rw [empty] at named
    cases named
    exact present rfl
  have checked : checkPath (!((split origin.toList).scheme.map Char.toLower).isEmpty)
      ((split origin.toList).hasAuthority host port) (split origin.toList).path = .ok () := by
    rw [authority]
    exact checkPath_of_authority (rooted_of_host written)
  refine ⟨(split origin.toList).normal host port, parse_eq_ok_iff.mpr ⟨?_, ?_, ?_⟩⟩
  · simp at short
    omega
  · intro char member
    exact plain char (List.mem_append_left _ member)
  · exact ofParts_eq_ok_iff.mpr ⟨host, port, named, ported, checked, rfl⟩

end ImageOwnership.Url
