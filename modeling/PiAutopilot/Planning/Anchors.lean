import PiAutopilot.Planning.Declarations

set_option autoImplicit false

/-! # The section anchors of a task document -/

namespace PiAutopilot.Planning

open Lib

/-- The Unicode tables of the standard library that a slug depends on. -/
structure CharTables where
  toLowercase : Char → List Char
  isAlphanumeric : Char → Bool

structure TaskSectionAnchor where
  anchor : Text
  sectionNumber : Option Text
deriving DecidableEq

inductive ExplicitSectionAnchor where
  | start (anchor : Text)
  | stop (anchor : Text)
  | point (anchor : Text)
deriving DecidableEq

def stripSuffix (ending text : Text) : Option Text := (ending.reverse.isPrefixOf? text.reverse).map List.reverse

def explicitHtmlSectionAnchor (line : Text) : Option ExplicitSectionAnchor := do
  let inner := trim (← stripSuffix "-->".toList (← stripPrefix "<!--".toList (trim line)))
  let (token, marker) := match splitOnce ':' inner with
    | none => (inner, none)
    | some (before, after) => (trim before, some (trim after))
  if token.isEmpty || !token.all fun letter => letter.isAlphanum || letter == '-' || letter == '_' || letter == '.' then none
  else match marker with
    | none => some (.point token)
    | some marker =>
      if marker = "start".toList then some (.start token)
      else if marker = "end".toList then some (.stop token)
      else none

def trimEndMatches (strip : Char → Bool) (text : Text) : Text := (text.reverse.dropWhile strip).reverse

def markdownHeadingTitle (line : Text) : Option Text :=
  let trimmed := line.dropWhile isWhite
  let markerCount := (trimmed.takeWhile (· == '#')).length
  if !(1 ≤ markerCount && markerCount ≤ 6) then none
  else
    let afterMarkers := trimmed.drop markerCount
    if !afterMarkers.head?.any isWhite then none
    else some (trimEndMatches isWhite (trimEndMatches (· == '#') (trim afterMarkers)))

variable (tables : CharTables)

def slugStep (state : Text × Bool) (letter : Char) : Text × Bool :=
  if tables.isAlphanumeric letter then
    ((if state.2 && !state.1.isEmpty then state.1 ++ ['-'] else state.1) ++ [letter], false)
  else if isWhite letter || letter == '-' then (state.1, true)
  else state

def markdownHeadingSlug (title : Text) : Text := ((title.flatMap tables.toLowercase).foldl (slugStep tables) ([], false)).1

def suffixed (slug : Text) (count : Nat) : Text :=
  if count = 0 then slug else slug ++ '-' :: Nat.toDigits 10 count

def headingCount (headingCounts : List (Text × Nat)) (slug : Text) : Nat := (getOwn headingCounts slug).getD 0

def uniqueHeadingAnchor (slug : Text) (headingCounts : List (Text × Nat)) : Text × List (Text × Nat) :=
  (suffixed slug (headingCount headingCounts slug), setOwn headingCounts slug (headingCount headingCounts slug + 1))

def dottedParts : Nat → Text → Text × Text
  | fuel + 1, '.' :: digit :: rest =>
    if digit.isDigit then
      let (more, left) := dottedParts fuel ((digit :: rest).dropWhile Char.isDigit)
      ('.' :: (digit :: rest).takeWhile Char.isDigit ++ more, left)
    else ([], '.' :: digit :: rest)
  | _, rest => ([], rest)

def headingSectionNumber (title : Text) : Option Text :=
  let letters := title.dropWhile isWhite
  if !letters.head?.any Char.isDigit then none
  else
    let (parts, rest) := dottedParts letters.length (letters.dropWhile Char.isDigit)
    let rest := if rest.head? = some '.' then rest.tail else rest
    if rest.head?.all fun letter => isWhite letter || letter == '-' || letter == ':' || letter == ')' then
      some (letters.takeWhile Char.isDigit ++ parts)
    else none

-- The source keeps the first three; `given` notes the anchors that headings get.
structure AnchorState where
  anchors : List TaskSectionAnchor
  headingCounts : List (Text × Nat)
  activeExplicitAnchors : List Text
  given : List Text

variable (state : AnchorState)

def markExplicit (line : Text) : AnchorState :=
  match explicitHtmlSectionAnchor line with
  | none => state
  | some (.start anchor) =>
    { state with anchors := state.anchors ++ [⟨anchor, none⟩]
                 activeExplicitAnchors := sortedSet (anchor :: state.activeExplicitAnchors) }
  | some (.stop anchor) => { state with activeExplicitAnchors := state.activeExplicitAnchors.filter (· != anchor) }
  | some (.point anchor) => { state with anchors := state.anchors ++ [⟨anchor, none⟩] }

def markSlug (slug : Text) (sectionNumber : Option Text) : AnchorState :=
  if slug.isEmpty then state
  else
    let (anchor, headingCounts) := uniqueHeadingAnchor slug state.headingCounts
    { state with anchors := state.anchors ++ [⟨anchor, sectionNumber⟩], headingCounts, given := state.given ++ [anchor] }

def markActive : Option Text → AnchorState
  | none => state
  | some number =>
    { state with anchors := state.anchors ++ state.activeExplicitAnchors.map fun anchor => ⟨anchor, some number⟩ }

def markHeading (title : Text) : AnchorState :=
  let sectionNumber := headingSectionNumber title
  markActive (markSlug state (markdownHeadingSlug tables title) sectionNumber) sectionNumber

def markLine (line : Text) : AnchorState :=
  match markdownHeadingTitle line with
  | none => markExplicit state line
  | some title => markHeading tables (markExplicit state line) title

def markLines (body : Text) : AnchorState := (lines body).foldl (markLine tables) ⟨[], [], [], []⟩

def taskDocumentSectionAnchors (body : Text) : List TaskSectionAnchor := (markLines tables body).anchors

def headingAnchors (body : Text) : List Text := (markLines tables body).given

def lineSlugs (line : Text) : List Text :=
  ((markdownHeadingTitle line).map (markdownHeadingSlug tables)).toList.filter fun slug => !slug.isEmpty

def headingSlugs (body : Text) : List Text := (lines body).flatMap (lineSlugs tables)

def usesFrom : List Text → List Text → List (Text × Nat)
  | _, [] => []
  | seen, slug :: rest => (slug, seen.count slug) :: usesFrom (slug :: seen) rest

variable {count : Nat} {slug : Text} {number : Option Text}

theorem mem_uses_from {seen slugs : List Text} :
    (slug, count) ∈ usesFrom seen slugs ↔ seen.count slug ≤ count ∧ count < seen.count slug + slugs.count slug := by
  induction slugs generalizing seen with
  | nil => simp [usesFrom]
  | cons head rest ih =>
    rw [usesFrom, List.mem_cons, ih, Prod.mk.injEq]
    by_cases same : head = slug
    · subst same
      rw [List.count_cons_self, List.count_cons_self]
      simp only [true_and]
      omega
    · rw [List.count_cons_of_ne same, List.count_cons_of_ne same]
      simp [Ne.symm same]

theorem uses_from_nodup (seen slugs : List Text) : (usesFrom seen slugs).Nodup := by
  induction slugs generalizing seen with
  | nil => exact List.nodup_nil
  | cons head rest ih =>
    refine List.nodup_cons.mpr ⟨fun again => ?_, ih (head :: seen)⟩
    have later := ((mem_uses_from).mp again).1
    rw [List.count_cons_self] at later
    omega

theorem uses_from_snoc (seen slugs : List Text) (slug : Text) :
    usesFrom seen (slugs ++ [slug]) = usesFrom seen slugs ++ [(slug, (slugs.reverse ++ seen).count slug)] := by
  induction slugs generalizing seen with
  | nil => rfl
  | cons head rest ih =>
    rw [List.cons_append, usesFrom, ih, usesFrom, List.reverse_cons, List.append_assoc]
    rfl

structure Counted (slugs : List Text) (state : AnchorState) : Prop where
  counts : ∀ slug, headingCount state.headingCounts slug = slugs.count slug
  given : state.given = (usesFrom [] slugs).map fun use => suffixed use.1 use.2
  pushed : state.given.Sublist (state.anchors.map TaskSectionAnchor.anchor)

variable (slugs : List Text)

theorem mark_explicit_counted {state : AnchorState} (line : Text) (counted : Counted slugs state) :
    Counted slugs (markExplicit state line) := by
  have grown : ∀ anchor, state.given.Sublist ((state.anchors ++ [anchor]).map TaskSectionAnchor.anchor) := by
    intro anchor
    rw [List.map_append]
    exact counted.pushed.trans (List.sublist_append_left _ _)
  rw [markExplicit]
  split
  · exact counted
  · exact ⟨counted.counts, counted.given, grown _⟩
  · exact ⟨counted.counts, counted.given, counted.pushed⟩
  · exact ⟨counted.counts, counted.given, grown _⟩

theorem mark_slug_counted {state : AnchorState}
    (counted : Counted slugs state) : Counted (slugs ++ [slug].filter fun slug => !slug.isEmpty) (markSlug state slug number) := by
  rw [markSlug]
  by_cases empty : slug.isEmpty = true
  · rw [if_pos empty, List.filter_cons_of_neg (by simp [empty]), List.filter_nil, List.append_nil]
    exact counted
  · rw [if_neg empty, List.filter_cons_of_pos (by simp [empty]), List.filter_nil]
    refine ⟨fun other => ?_, ?_, ?_⟩
    · show (getOwn (setOwn _ _ _) other).getD 0 = _
      rw [get_own_set_own, List.count_append, counted.counts slug]
      by_cases same : other = slug
      · simp [same]
      · rw [if_neg same, List.count_singleton, if_neg (by simpa using Ne.symm same)]
        exact counted.counts other
    · show state.given ++ [suffixed slug _] = _
      rw [counted.given, counted.counts slug, uses_from_snoc, List.map_append, List.append_nil, List.count_reverse]
      rfl
    · show (state.given ++ [_]).Sublist ((state.anchors ++ [_]).map _)
      rw [List.map_append]
      exact counted.pushed.append (List.Sublist.refl _)

theorem mark_active_counted {state : AnchorState} (counted : Counted slugs state) : Counted slugs (markActive state number) := by
  cases number with
  | none => exact counted
  | some number =>
    refine ⟨counted.counts, counted.given, ?_⟩
    rw [markActive, List.map_append]
    exact counted.pushed.trans (List.sublist_append_left _ _)

theorem mark_line_counted {state : AnchorState} (line : Text)
    (counted : Counted slugs state) : Counted (slugs ++ lineSlugs tables line) (markLine tables state line) := by
  have explicit := mark_explicit_counted slugs line counted
  rw [lineSlugs, markLine]
  cases markdownHeadingTitle line with
  | none => simpa using explicit
  | some title =>
    exact mark_active_counted _ (mark_slug_counted slugs explicit)

theorem mark_lines_counted {body : Text} : Counted (headingSlugs tables body) (markLines tables body) := by
  have kept : ∀ (rest slugs : List Text) (state : AnchorState), Counted slugs state →
      Counted (slugs ++ rest.flatMap (lineSlugs tables)) (rest.foldl (markLine tables) state) := by
    intro rest
    induction rest with
    | nil => intro slugs state counted; simpa using counted
    | cons line rest ih =>
      intro slugs state counted
      have later := ih _ _ (mark_line_counted tables slugs line counted)
      rwa [List.append_assoc] at later
  exact kept (lines body) [] ⟨[], [], [], []⟩ ⟨fun _ => rfl, rfl, List.Sublist.refl _⟩

theorem digits_no_dash : '-' ∉ Nat.toDigits 10 count := by
  intro member
  have digit := Nat.isDigit_of_mem_toDigits (by decide) (le_refl 10) member
  exact absurd digit (by decide)

-- The last dash of a suffixed slug stands before its number.
theorem suffix_inj {other : Text} {otherCount : Nat}
    (same : slug ++ '-' :: Nat.toDigits 10 count = other ++ '-' :: Nat.toDigits 10 otherCount) : slug = other ∧ count = otherCount := by
  have before : ∀ (count : Nat) (rest : Text), ((Nat.toDigits 10 count).reverse ++ '-' :: rest).takeWhile (· != '-') =
      (Nat.toDigits 10 count).reverse := by
    intro count rest
    rw [List.takeWhile_append_of_pos, List.takeWhile_cons_of_neg (by simp), List.append_nil]
    intro digit member
    rw [bne_iff_ne]
    rintro rfl
    exact digits_no_dash (List.mem_reverse.mp member)
  have reversed := congrArg List.reverse same
  simp only [List.reverse_append, List.reverse_cons, List.append_assoc, List.singleton_append] at reversed
  have digits : (Nat.toDigits 10 count).reverse = (Nat.toDigits 10 otherCount).reverse := by
    rw [← before count slug.reverse, reversed, before]
  have values := congrArg (fun digits => Nat.ofDigitChars 10 digits 0) (List.reverse_injective digits)
  rw [digits, List.append_cancel_left_eq, List.cons.injEq] at reversed
  exact ⟨List.reverse_injective reversed.2, by simpa using values⟩

/-- The headings of a document get distinct anchors exactly when no heading's slug is the slug of another with
a number that the repetitions of the other reach. -/
theorem heading_anchors_distinct_iff (tables : CharTables) (body : Text) : (headingAnchors tables body).Nodup ↔
      ∀ slug ∈ headingSlugs tables body, ∀ other ∈ headingSlugs tables body, ∀ count, 0 < count →
        count < (headingSlugs tables body).count other → slug ≠ other ++ '-' :: Nat.toDigits 10 count := by
  have used : ∀ slug count, (slug, count) ∈ usesFrom [] (headingSlugs tables body) ↔
      count < (headingSlugs tables body).count slug := fun slug count => by simp [mem_uses_from]
  rw [headingAnchors, (mark_lines_counted tables).given, List.nodup_map_iff_inj_on (uses_from_nodup _ _)]
  constructor
  · intro distinct slug slugIn other _ count positive few same
    have first := (used slug 0).mpr (List.count_pos_iff.mpr slugIn)
    have pair := distinct (slug, 0) first (other, count) ((used other count).mpr few) (by
      rw [suffixed, if_pos rfl, suffixed, if_neg positive.ne', same])
    exact positive.ne (congrArg Prod.snd pair)
  · rintro apart ⟨slug, count⟩ slugUsed ⟨other, otherCount⟩ otherUsed same
    have slugFew := (used slug count).mp slugUsed
    have otherFew := (used other otherCount).mp otherUsed
    have slugIn := List.count_pos_iff.mp (Nat.zero_lt_of_lt slugFew)
    have otherIn := List.count_pos_iff.mp (Nat.zero_lt_of_lt otherFew)
    simp only [suffixed] at same
    by_cases first : count = 0
    · by_cases otherFirst : otherCount = 0
      · rw [if_pos first, if_pos otherFirst] at same
        rw [same, first, otherFirst]
      · rw [if_pos first, if_neg otherFirst] at same
        exact absurd same (apart slug slugIn other otherIn otherCount (Nat.pos_of_ne_zero otherFirst) otherFew)
    · by_cases otherFirst : otherCount = 0
      · rw [if_neg first, if_pos otherFirst] at same
        exact absurd same.symm (apart other otherIn slug slugIn count (Nat.pos_of_ne_zero first) slugFew)
      · rw [if_neg first, if_neg otherFirst] at same
        obtain ⟨slugEq, countEq⟩ := suffix_inj same
        rw [slugEq, countEq]

def asciiTables : CharTables := ⟨fun letter => [letter.toLower], Char.isAlphanum⟩

/-- Two headings `A` and a heading `A 1`: the second and the third have the same anchor. -/
theorem numbered_heading_collides : headingAnchors asciiTables "# A\n# A\n# A 1\n".toList = ["a".toList, "a-1".toList, "a-1".toList] := by
  decide +kernel

end PiAutopilot.Planning
