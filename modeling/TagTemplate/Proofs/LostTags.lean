import TagTemplate.Proofs.TaggedText

/-!
Tags without a fragment. The check of the close tags looks two tokens ahead and not at the token
between, so an opening tag with another tag directly behind it passes, and gives no instruction.
These are the only tags that are lost: the instructions of a region and its lost tags together are
as many as the tags that open it.
-/
namespace TagTemplate

/-- Every tag that opens a region has its text directly behind it, and a close tag behind that. -/
def FillsTags (tokens : List Placed) : Prop :=
  ∀ before opener after, tokens = before ++ opener :: after → opener.opens →
    ∃ s span close rest, after = ⟨.text s, span⟩ :: close :: rest ∧ close.closes

def Placed.starts (region : Region) (t : Placed) : Bool :=
  t.token.kind?.bind Walk.regionOf == some region

def Instr.isOf (region : Region) : Instr → Bool
  | exec _ => region == .eval
  | emitEscaped _ => region == .escaped
  | emitRaw _ => region == .raw
  | emitLiteral _ | line _ => false

def Region.takesCode : Region → Bool
  | .eval | .escaped | .raw => true
  | .comment | .literal => false

/-- How many tags open the region and have another tag directly behind them. -/
def lost (region : Region) (tokens : List Placed) : Nat :=
  (tokens.zip tokens.tail).countP fun (opener, next) => opener.starts region && next.isTag

theorem count_of_region (region : Region) (instrs : List Instr) :
    instrs.countP (Instr.isOf region) =
      (instrs.filter Instr.isFragment).countP (Instr.isOf region) := by
  rw [List.countP_filter]
  congr 1
  funext i
  cases i <;> simp [Instr.isOf, Instr.isFragment, Instr.fragment?]

theorem lost_cons (region : Region) (t next : Placed) (rest : List Placed) :
    lost region (t :: next :: rest) =
      lost region (next :: rest) + if t.starts region && next.isTag then 1 else 0 := by
  simp only [lost, List.tail_cons, List.zip_cons_cons, List.countP_cons]

theorem opens_of_starts {region : Region} (code : region.takesCode) {t : Placed}
    (starts : t.starts region) : t.opens := by
  obtain ⟨⟨⟩ | ⟨kind, s⟩, span⟩ := t
  · cases starts
  · cases region with
    | comment | literal => cases code
    | _ => cases kind <;> first | rfl | cases starts

theorem count_of_pair {region : Region} (code : region.takesCode) (t next : Placed) :
    ((TaggedText.ofPair? (t, next)).toList.map TaggedText.instr).countP (Instr.isOf region) =
      if t.starts region && !next.isTag then 1 else 0 := by
  obtain ⟨⟨⟩ | ⟨kind, s⟩, span⟩ := t
  · rfl
  · obtain ⟨⟨s⟩ | ⟨k, s⟩, place⟩ := next
    · cases kind <;> cases region <;> first | rfl | cases code
    · simp [TaggedText.ofPair?, Placed.isTag, Token.kind?]

/-- In closed tokens a tag that opens a region either gives an instruction or is lost. -/
theorem count_tagged_texts {region : Region} (code : region.takesCode) {tokens : List Placed}
    (closed : Closed tokens) :
    ((taggedTexts tokens).map TaggedText.instr).countP (Instr.isOf region) +
      lost region tokens = tokens.countP (Placed.starts region) := by
  induction tokens with
  | nil => rfl
  | cons t tokens ih =>
    have tail := ih (closed_tail closed)
    rw [List.countP_cons, ← tail, tagged_texts_cons, List.map_append, List.countP_append]
    cases tokens with
    | nil =>
      -- The last token opens nothing, for its close tag would stand two tokens later.
      have last : t.starts region = false := by
        by_contra starts
        obtain ⟨next, close, rest, split, -⟩ :=
          closed [] t [] rfl (opens_of_starts code (by simpa using starts))
        cases split
      rw [last]
      rfl
    | cons next rest =>
      rw [List.head?_cons, Option.bind_some, count_of_pair code, lost_cons]
      cases t.starts region <;> cases next.isTag <;> simp <;> omega

theorem no_lost_of_text {region : Region} (code : region.takesCode) {tokens : List Placed}
    (texts : ∀ before opener next after, tokens = before ++ opener :: next :: after →
      opener.opens → next.isTag = false) : lost region tokens = 0 := by
  induction tokens with
  | nil => rfl
  | cons t tokens ih =>
    have tail := ih fun before opener next after split =>
      texts (t :: before) opener next after (by rw [split]; rfl)
    cases tokens with
    | nil => rfl
    | cons next rest =>
      rw [lost_cons, tail]
      cases starts : t.starts region with
      | false => rfl
      | true =>
        rw [texts [] t next rest rfl (opens_of_starts code starts)]
        rfl

theorem fills_tags_iff {tokens : List Placed} (closed : Closed tokens) :
    FillsTags tokens ↔
      ∀ before opener next after, tokens = before ++ opener :: next :: after →
        opener.opens → next.isTag = false := by
  constructor
  · intro fills before opener next after split opens
    obtain ⟨s, span, close, rest, same, -⟩ := fills before opener _ split opens
    rw [(List.cons.inj same).1]
    rfl
  · intro texts before opener after split opens
    obtain ⟨next, close, rest, rfl, closes⟩ := closed before opener after split opens
    have text := texts before opener next _ split opens
    obtain ⟨⟨s⟩ | ⟨k, s⟩, span⟩ := next
    · exact ⟨s, span, close, rest, rfl, closes⟩
    · cases text

/-- A compilation keeps every tag exactly if no tag that opens a region has a tag directly behind
    it. In any case the tags that open a region of code are its instructions and its lost tags. -/
theorem fills_tags_iff_no_lost {o : Options} {source : String} {compiled : Compiled}
    (ok : compile o source = .ok compiled) :
    (FillsTags (sourceTokens o source) ↔
      ∀ before opener next after,
        sourceTokens o source = before ++ opener :: next :: after →
        opener.opens → next.isTag = false) ∧
    (∀ region : Region, region.takesCode →
      compiled.template.instrs.countP (Instr.isOf region) + lost region (sourceTokens o source) =
        (sourceTokens o source).countP (Placed.starts region)) ∧
    (FillsTags (sourceTokens o source) → ∀ region : Region, region.takesCode →
      compiled.template.instrs.countP (Instr.isOf region) =
        (sourceTokens o source).countP (Placed.starts region)) := by
  have closed := closed_of_compile ok
  have count : ∀ region : Region, region.takesCode →
      compiled.template.instrs.countP (Instr.isOf region) + lost region (sourceTokens o source) =
        (sourceTokens o source).countP (Placed.starts region) := by
    intro region code
    rw [count_of_region, fragments_of_compile ok]
    exact count_tagged_texts code closed
  refine ⟨fills_tags_iff closed, count, ?_⟩
  intro fills region code
  have none := no_lost_of_text code ((fills_tags_iff closed).mp fills)
  rw [← count region code, none, Nat.add_zero]

theorem one_kept_one_lost :
    ∃ compiled, compile Options.standard "<%= a %><%=%>%>" = .ok compiled ∧
      compiled.template.instrs.countP (Instr.isOf .escaped) + 1 = 2 := by
  obtain ⟨compiled, ok⟩ : ∃ compiled,
      compile Options.standard "<%= a %><%=%>%>" = .ok compiled := ⟨_, rfl⟩
  have count := (fills_tags_iff_no_lost ok).2.1 .escaped rfl
  have one : lost .escaped (sourceTokens Options.standard "<%= a %><%=%>%>") = 1 := by decide
  have two :
      (sourceTokens Options.standard "<%= a %><%=%>%>").countP (Placed.starts .escaped) = 2 := by
    decide
  rw [one, two] at count
  exact ⟨compiled, ok, count⟩

theorem adjacent_tag_lost :
    ∃ compiled, compile Options.standard "<%=%>%>" = .ok compiled ∧
      ¬ FillsTags (sourceTokens Options.standard "<%=%>%>") ∧ compiled.template.instrs = [] := by
  refine ⟨_, rfl, ?_, by decide⟩
  intro fills
  obtain ⟨s, span, close, rest, split, -⟩ :=
    fills [] ⟨.tag .openEscaped ['<', '%', '='], ⟨0, 3⟩⟩
      [⟨.tag .close ['%', '>'], ⟨3, 5⟩⟩, ⟨.tag .close ['%', '>'], ⟨5, 7⟩⟩] (by decide) rfl
  cases split

end TagTemplate
