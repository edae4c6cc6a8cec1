import Mathlib.Data.List.Forall2
import Vendoring.Proofs.Yaml.Layout
import Vendoring.Yaml.Document

/-!
# The document of a block mapping

The tokens of a value meet the expectation of a node and add one node to the tree that is built, the
tokens of a collection add the nodes inside it to the collection. **The document of a text is
the mapping that its lines are** (`ofString_lines`). Where the nodes stand in the text is left open.
-/

set_option autoImplicit false

namespace Vendoring.Yaml

/-! ## Nodes of values -/

/-- A scalar without anchor and tag. -/
def Node.IsScalar (style : Style) (s : String) (n : Node) : Prop :=
  ∃ mark, n = .scalar ⟨mark, none, none⟩ style s

/-- The node of a value. -/
def Written.Holds : Written → Node → Prop
  | text s, n => n.IsScalar .doubleQuoted s
  | texts ss, n => ∃ mark items, n = .sequence ⟨mark, none, none⟩ items true ∧
    List.Forall₂ (Node.IsScalar .doubleQuoted) ss items
  | number i, n => n.IsScalar .plain (toString i)
  | nothing, n => n.IsScalar .plain "null"

/-- The items of a mapping are a key and a value for each of some things. -/
inductive Entries {α : Type} (R : α → Node → Node → Prop) : List α → List Node → Prop
  | nil : Entries R [] []
  | cons {a : α} {more : List α} {k v : Node} {items : List Node} (h : R a k v)
    (hmore : Entries R more items) : Entries R (a :: more) (k :: v :: items)

theorem Entries.of_map {α β : Type} {f : β → α} {R : α → Node → Node → Prop} {bs : List β}
    {items : List Node} (h : Entries R (bs.map f) items) :
    Entries (fun b => R (f b)) bs items := by
  induction bs generalizing items with
  | nil =>
    cases h
    exact .nil
  | cons b bs ih =>
    cases h with
    | cons hb hmore => exact .cons hb (ih hmore)

theorem Entries.mono {α : Type} {R S : α → Node → Node → Prop} {as : List α} {items : List Node}
    (h : Entries R as items) (hRS : ∀ a ∈ as, ∀ k v, R a k v → S a k v) : Entries S as items := by
  induction h with
  | nil => exact .nil
  | cons ha _ ih =>
    obtain ⟨hhead, htail⟩ := List.forall_mem_cons.1 hRS
    exact .cons (hhead _ _ ha) (ih htail)

/-- The key and the value of a field. -/
def Field.Holds (f : Field) (k v : Node) : Prop := k.IsScalar .plain f.key ∧ f.value.Holds v

/-- The key and the value of a line. -/
def Line.Holds : Line → Node → Node → Prop
  | field f, k, v => f.Holds k v
  | block key _ fields, k, v => k.IsScalar .plain key ∧
    ∃ mark items, v = .mapping ⟨mark, none, none⟩ items true ∧ Entries Field.Holds fields items

/-! ## Making nodes -/

theorem Events.after_after (front back : List Event) (es : Events) :
    (es.after back).after front = es.after (front ++ back) := by
  rw [after, after, after, List.append_assoc]

/-- Tokens change what is expected, and add nodes to the tree that is built. -/
def Makes (tokens : List Token) (expected : List Expectation) (nodes : List Node)
    (expected' : List Expectation) : Prop :=
  ∃ events : List Event,
    (∀ cut? more, Events.ofTokens .default cut? expected (tokens ++ more) =
      (Events.ofTokens .default cut? expected' more).after events) ∧
    ∀ (b : Document.Builder) (more : List Event),
      b.build (events ++ more) = (nodes.foldl Document.Builder.add b).build more

section

variable {tokens tokens' : List Token} {nodes nodes' : List Node}
  {expected expected' expected'' : List Expectation} {t : Token} {mark : Mark} {s : String}

theorem Makes.nil : Makes [] expected [] expected := ⟨[], fun _ _ => rfl, fun _ _ => rfl⟩

theorem Makes.append (h : Makes tokens expected nodes expected')
    (h' : Makes tokens' expected' nodes' expected'') :
    Makes (tokens ++ tokens') expected (nodes ++ nodes') expected'' := by
  obtain ⟨events, htokens, hbuild⟩ := h
  obtain ⟨events', htokens', hbuild'⟩ := h'
  refine ⟨events ++ events', fun cut? more => ?_, fun b more => ?_⟩
  · rw [List.append_assoc, htokens, htokens', Events.after_after]
  · rw [List.append_assoc, hbuild, hbuild', List.foldl_append]

/-- One token that an expectation takes. -/
theorem ofTokens_take {events : List Event} {expectation : Expectation}
    {front below : List Expectation} (h : expectation.reply .default t = .take events front)
    (cut? : Option Fault) (more : List Token) :
    Events.ofTokens .default cut? (expectation :: below) (t :: more) =
      (Events.ofTokens .default cut? (front ++ below) more).after events := by
  rw [Events.ofTokens, offer, h]

/-- A token that tells no event. -/
theorem makes_silent {expectation : Expectation} {front below : List Expectation}
    (h : expectation.reply .default t = .take [] front) :
    Makes [t] (expectation :: below) [] (front ++ below) :=
  ⟨[], ofTokens_take h, fun _ _ => rfl⟩

/-- A token that is a scalar. -/
theorem makes_scalar {style : Style} {expectation : Expectation} {front below : List Expectation}
    (h : expectation.reply .default t = .take [⟨.scalar .none style s, t.mark⟩] front) :
    Makes [t] (expectation :: below) [.scalar ⟨t.mark, none, none⟩ style s] (front ++ below) :=
  ⟨_, ofTokens_take h, fun _ _ => rfl⟩

theorem foldl_add (nodes : List Node) (o : Document.OpenNode) (outer : List Document.OpenNode)
    (root? : Option Node) (anchors : List (String × Nat)) :
    nodes.foldl Document.Builder.add ⟨o :: outer, root?, anchors⟩ =
      ⟨{ o with reversed := nodes.reverse ++ o.reversed } :: outer, root?, anchors⟩ := by
  induction nodes generalizing o with
  | nil => rfl
  | cons n nodes ih =>
    rw [List.foldl_cons, Document.Builder.add, ih]
    simp

/-- **A collection is made** of what its tokens make between the first and the last of them. -/
theorem makes_collection (isMapping : Bool) {last : Token} {expectation inner inner' : Expectation}
    {below : List Expectation}
    (hopen : expectation.reply .default t = .opening
      (if isMapping then .mappingStart .none else .sequenceStart .none) t.mark inner)
    (hinside : Makes tokens (inner :: below) nodes (inner' :: below))
    (hclose : inner'.reply .default last =
      .closing (if isMapping then .mappingEnd else .sequenceEnd) last) :
    Makes (t :: (tokens ++ [last])) (expectation :: below)
      [if isMapping then .mapping ⟨t.mark, none, none⟩ nodes true
        else .sequence ⟨t.mark, none, none⟩ nodes true] below := by
  obtain ⟨events, htokens, hbuild⟩ := hinside
  refine ⟨⟨if isMapping then .mappingStart .none else .sequenceStart .none, t.mark⟩ ::
    (events ++ [⟨if isMapping then .mappingEnd else .sequenceEnd, last.mark⟩]), ?_, ?_⟩
  · intro cut? more
    rw [List.cons_append, List.append_assoc, ofTokens_take hopen]
    show (Events.ofTokens .default cut? (inner :: below) (tokens ++ ([last] ++ more))).after _ = _
    rw [htokens, List.singleton_append, ofTokens_take hclose, Events.after_after,
      Events.after_after]
    rfl
  · rintro ⟨opened, root?, anchors⟩ more
    rw [List.cons_append, List.append_assoc]
    cases isMapping <;>
    · show Document.Builder.build ⟨⟨_, ⟨t.mark, none, none⟩, []⟩ :: opened, root?, anchors⟩ _ = _
      rw [hbuild, foldl_add, List.append_nil]
      show Document.Builder.build (Document.Builder.add _ (Document.OpenNode.close _ true)) more = _
      rw [Document.OpenNode.close, List.reverse_reverse]
      rfl

/-! ## Values -/

theorem nodeReply_scalar {place : Place} {style : Style} (ht : t.kind = .scalar style s) :
    nodeReply place t = .take [⟨.scalar .none style s, t.mark⟩] [] := by
  simp [nodeReply, contentReply, ht]

/-- A scalar where a field is expected. -/
theorem makes_fieldScalar {style : Style} (ht : t.kind = .scalar style s) (absent : Mark)
    (below : List Expectation) :
    Makes [t] (.blockField absent :: below) [.scalar ⟨t.mark, none, none⟩ style s] below := by
  have hreply : (Expectation.blockField absent).reply .default t =
      .take [⟨.scalar .none style s, t.mark⟩] [] := by
    rw [Expectation.reply, optionalReply, ht]
    exact nodeReply_scalar ht
  exact makes_scalar hreply

/-- A scalar in a flow sequence. -/
theorem makes_itemScalar {style : Style} (ht : t.kind = .scalar style s) (start : Mark)
    (below : List Expectation) :
    Makes [t] (.flowEntry start :: below) [.scalar ⟨t.mark, none, none⟩ style s]
      (.flowSequence start :: below) := by
  have hreply : (Expectation.flowEntry start).reply .default t =
      .take [⟨.scalar .none style s, t.mark⟩] [.flowSequence start] := by
    simp [Expectation.reply, ht, nodeReply_scalar ht, Reply.followedBy]
  exact makes_scalar hreply

/-- A comma in a flow sequence. -/
theorem makes_comma (ht : t.kind = .flowEntry) (start : Mark) (below : List Expectation) :
    Makes [t] (.flowSequence start :: below) [] (.flowEntry start :: below) := by
  have hreply :
      (Expectation.flowSequence start).reply .default t = .take [] [.flowEntry start] := by
    simp [Expectation.reply, ht]
  exact makes_silent hreply

/-- Texts with commas between them. -/
theorem makes_commaTexts (s : String) (more : List String) : ∀ {tokens : List Token},
    tokens.map Token.kind = commaKinds (s :: more) →
      ∃ items, List.Forall₂ (Node.IsScalar .doubleQuoted) (s :: more) items ∧ ∀ start below,
        Makes tokens (.flowEntry start :: below) items (.flowSequence start :: below) := by
  induction more generalizing s with
  | nil =>
    intro tokens h
    obtain ⟨t, rfl, ht⟩ := List.map_eq_singleton_iff.1 h
    exact ⟨_, .cons ⟨_, rfl⟩ .nil, makes_itemScalar ht⟩
  | cons s' more ih =>
    intro tokens h
    obtain ⟨t, rest, rfl, ht, hrest⟩ := List.map_eq_cons_iff.1 h
    obtain ⟨t', rest', rfl, ht', hrest'⟩ := List.map_eq_cons_iff.1 hrest
    obtain ⟨items, hitems, hmake⟩ := ih s' hrest'
    exact ⟨_, .cons ⟨_, rfl⟩ hitems, fun start below => (makes_itemScalar ht start below).append
      ((makes_comma ht' start below).append (hmake start below))⟩

/-- The bracket behind the texts, or behind the first bracket. -/
theorem reply_closingBracket (ht : t.kind = .flowSequenceEnd) (start : Mark) :
    (Expectation.flowSequence start).reply .default t = .closing .sequenceEnd t ∧
      (Expectation.flowEntry start).reply .default t = .closing .sequenceEnd t := by
  simp [Expectation.reply, ht]

/-- **The tokens of a value make its node.** -/
theorem makes_value {v : Written} (h : tokens.map Token.kind = v.kinds) :
    ∃ n, v.Holds n ∧ ∀ absent below, Makes tokens (.blockField absent :: below) [n] below := by
  cases v with
  | text s =>
    obtain ⟨t, rfl, ht⟩ := List.map_eq_singleton_iff.1 h
    exact ⟨_, ⟨_, rfl⟩, makes_fieldScalar ht⟩
  | number i =>
    obtain ⟨t, rfl, ht⟩ := List.map_eq_singleton_iff.1 h
    exact ⟨_, ⟨_, rfl⟩, makes_fieldScalar ht⟩
  | nothing =>
    obtain ⟨t, rfl, ht⟩ := List.map_eq_singleton_iff.1 h
    exact ⟨_, ⟨_, rfl⟩, makes_fieldScalar ht⟩
  | texts ss =>
    obtain ⟨t, rest, rfl, ht, hrest⟩ := List.map_eq_cons_iff.1 h
    obtain ⟨inside, back, rfl, hinside, hback⟩ := List.map_eq_append_iff.1 hrest
    obtain ⟨last, rfl, hlast⟩ := List.map_eq_singleton_iff.1 hback
    have hopen : ∀ absent, (Expectation.blockField absent).reply .default t =
        .opening (.sequenceStart .none) t.mark (.flowEntry t.mark) := by
      intro absent
      simp [Expectation.reply, optionalReply, nodeReply, contentReply, ht]
    obtain ⟨hclose, hcloseEmpty⟩ := reply_closingBracket hlast t.mark
    cases ss with
    | nil =>
      rw [commaKinds, List.map_eq_nil_iff] at hinside
      subst hinside
      exact ⟨_, ⟨t.mark, [], rfl, .nil⟩, fun absent _ =>
        makes_collection false (hopen absent) .nil hcloseEmpty⟩
    | cons s more =>
      obtain ⟨items, hitems, hmake⟩ := makes_commaTexts s more hinside
      exact ⟨_, ⟨t.mark, items, rfl, hitems⟩, fun absent below =>
        makes_collection false (hopen absent) (hmake t.mark below) hclose⟩

/-! ## Mappings -/

/-- A key, and the colon behind it. -/
theorem makes_key {key : List Char} (h : tokens.map Token.kind = Scan.keyKinds key) :
    ∃ k, k.IsScalar .plain (String.ofList key) ∧ ∃ absent, ∀ start below,
      Makes tokens (.blockMapping start :: below) [k]
        (.blockField absent :: .blockMapping start :: below) := by
  obtain ⟨first, rest, rfl, hfirst, hrest⟩ := List.map_eq_cons_iff.1 h
  obtain ⟨word, rest', rfl, hword, hrest'⟩ := List.map_eq_cons_iff.1 hrest
  obtain ⟨colon, rfl, hcolon⟩ := List.map_eq_singleton_iff.1 hrest'
  refine ⟨_, ⟨word.mark, rfl⟩, colon.finish, fun start below => ?_⟩
  have hkey : (Expectation.blockMapping start).reply .default first =
      .take [] [.blockField first.finish, .blockValue, .blockMapping start] := by
    simp [Expectation.reply, hfirst]
  have hvalue : Expectation.blockValue.reply .default colon =
      .take [] [.blockField colon.finish] := by
    simp [Expectation.reply, hcolon]
  exact (makes_silent hkey).append ((makes_fieldScalar hword _ _).append (makes_silent hvalue))

/-- **The entries of a mapping are made** one after the other. -/
theorem makes_entries {α : Type} {R : α → Node → Node → Prop} {kinds : α → List TokenKind}
    {as : List α} (h : ∀ a ∈ as, ∀ {tokens : List Token}, tokens.map Token.kind = kinds a →
      ∃ k v, R a k v ∧ ∀ start below, Makes tokens (.blockMapping start :: below) [k, v]
        (.blockMapping start :: below)) :
    ∀ {tokens : List Token}, tokens.map Token.kind = as.flatMap kinds →
      ∃ items, Entries R as items ∧ ∀ start below, Makes tokens
        (.blockMapping start :: below) items (.blockMapping start :: below) := by
  induction as with
  | nil =>
    intro tokens htokens
    rw [List.flatMap_nil, List.map_eq_nil_iff] at htokens
    subst htokens
    exact ⟨[], .nil, fun _ _ => .nil⟩
  | cons a as ih =>
    intro tokens htokens
    obtain ⟨ha, has⟩ := List.forall_mem_cons.1 h
    obtain ⟨front, back, rfl, hfront, hback⟩ := List.map_eq_append_iff.1 htokens
    obtain ⟨k, v, hkv, hentry⟩ := ha hfront
    obtain ⟨items, hitems, hmake⟩ := ih has hback
    exact ⟨_, .cons hkv hitems, fun start below =>
      (hentry start below).append (hmake start below)⟩

/-- The expectation can be met by a block mapping. -/
def Expectation.TakesMapping (expectation : Expectation) : Prop :=
  ∀ t : Token, t.kind = .blockMappingStart →
    expectation.reply .default t = .opening (.mappingStart .none) t.mark (.blockMapping t.mark)

theorem takesMapping_blockField (absent : Mark) : (Expectation.blockField absent).TakesMapping := by
  intro t ht
  simp [Expectation.reply, optionalReply, nodeReply, contentReply, ht]

theorem takesMapping_node : (Expectation.node .block).TakesMapping := by
  intro t ht
  simp [Expectation.reply, nodeReply, contentReply, ht]

/-- **A mapping is made** of its entries. -/
theorem makes_mapping {α : Type} {R : α → Node → Node → Prop} {kinds : α → List TokenKind}
    {as : List α} (h : ∀ a ∈ as, ∀ {tokens : List Token}, tokens.map Token.kind = kinds a →
      ∃ k v, R a k v ∧ ∀ start below, Makes tokens (.blockMapping start :: below) [k, v]
        (.blockMapping start :: below))
    (htokens : tokens.map Token.kind = .blockMappingStart :: (as.flatMap kinds ++ [.blockEnd])) :
    ∃ mark items, Entries R as items ∧ ∀ expectation : Expectation, expectation.TakesMapping →
      ∀ below, Makes tokens (expectation :: below)
        [.mapping ⟨mark, none, none⟩ items true] below := by
  obtain ⟨t, rest, rfl, ht, hrest⟩ := List.map_eq_cons_iff.1 htokens
  obtain ⟨inside, back, rfl, hinside, hback⟩ := List.map_eq_append_iff.1 hrest
  obtain ⟨last, rfl, hlast⟩ := List.map_eq_singleton_iff.1 hback
  obtain ⟨items, hitems, hmake⟩ := makes_entries h hinside
  have hclose : (Expectation.blockMapping t.mark).reply .default last =
      .closing .mappingEnd last := by
    simp [Expectation.reply, hlast]
  exact ⟨t.mark, items, hitems, fun expectation hopen below =>
    makes_collection true (hopen t ht) (hmake t.mark below) hclose⟩

theorem makes_field (f : Field) (h : tokens.map Token.kind = f.kinds) :
    ∃ k v, f.Holds k v ∧ ∀ start below, Makes tokens (.blockMapping start :: below) [k, v]
      (.blockMapping start :: below) := by
  obtain ⟨front, back, rfl, hfront, hback⟩ := List.map_eq_append_iff.1 h
  obtain ⟨k, hk, absent, hkey⟩ := makes_key hfront
  obtain ⟨v, hv, hvalue⟩ := makes_value hback
  rw [String.ofList_toList] at hk
  exact ⟨k, v, ⟨hk, hv⟩, fun start below => (hkey start below).append (hvalue absent _)⟩

/-- **A line makes its entry.** -/
theorem makes_line (line : Line) (h : tokens.map Token.kind = line.kinds) :
    ∃ k v, line.Holds k v ∧ ∀ start below, Makes tokens (.blockMapping start :: below) [k, v]
      (.blockMapping start :: below) := by
  cases line with
  | field f => exact makes_field f h
  | block key count fields =>
    obtain ⟨front, back, rfl, hfront, hback⟩ := List.map_eq_append_iff.1 h
    obtain ⟨k, hk, absent, hkey⟩ := makes_key hfront
    obtain ⟨mark, items, hitems, hvalue⟩ := makes_mapping (fun f _ => makes_field f) hback
    rw [String.ofList_toList] at hk
    exact ⟨k, _, ⟨hk, mark, items, rfl, hitems⟩, fun start below =>
      (hkey start below).append (hvalue _ (takesMapping_blockField absent) _)⟩

end

/-- **The document of a text is the mapping that its lines are.** -/
theorem ofString_lines {lines : List Line} (hne : lines ≠ [])
    (h : ∀ line ∈ lines, line.IsWritable) :
    ∃ mark items, Entries Line.Holds lines items ∧
      Document.ofString (String.ofList (lines.flatMap Line.chars)) =
        ⟨some (.mapping ⟨mark, none, none⟩ items true), none, true⟩ := by
  obtain ⟨tokens, hkinds, htokens⟩ := tokens_ofLines hne h
  have hkinds' : tokens.map Token.kind =
      (.blockMappingStart :: (lines.flatMap Line.kinds ++ [.blockEnd])) ++ [.endOfText] := by
    simp [hkinds]
  obtain ⟨front, back, rfl, hfront, hback⟩ := List.map_eq_append_iff.1 hkinds'
  obtain ⟨last, rfl, hlast⟩ := List.map_eq_singleton_iff.1 hback
  obtain ⟨mark, items, hitems, hmake⟩ := makes_mapping (fun line _ => makes_line line) hfront
  obtain ⟨events, hevents, hbuild⟩ := hmake _ takesMapping_node []
  refine ⟨mark, items, hitems, ?_⟩
  have hstream : Events.ofStream none false [] (front ++ [last]) = ⟨events, none, [last]⟩ := by
    obtain ⟨t, rest, rfl, ht, -⟩ := List.map_eq_cons_iff.1 hfront
    have hdocument : Events.ofStream none false [] (t :: rest ++ [last]) =
        Events.ofTokens .default none [.node .block] (t :: rest ++ [last]) := by
      simp [Events.ofStream, ht]
    rw [hdocument, hevents]
    simp [Events.ofTokens, offer, Events.after]
  have hroot := hbuild .empty []
  rw [List.append_nil] at hroot
  have hlast' : Document.endsText [last] = true := by
    simp [Document.endsText, hlast]
  rw [Document.ofString, htokens]
  simp only [hstream, hroot, hlast']
  rfl

/-- Where the text breaks off behind its first key, that key is the document. -/
theorem ofString_longKey {f : Field} (hkey : IsKey f.key.toList) (hvalue : f.value.IsPrintable)
    (hlong : Scan.maxKeyLength < f.key.length) :
    ∃ (n : Node) (fault : Fault), n.IsScalar .plain f.key ∧
      Document.ofString (String.ofList (f.chars 0)) = ⟨some n, some fault, false⟩ := by
  obtain ⟨tokens, fault, hkinds, htokens⟩ := tokens_longKey hkey hvalue hlong
  obtain ⟨t, rfl, ht⟩ := List.map_eq_singleton_iff.1 hkinds
  refine ⟨_, fault, ⟨t.mark, rfl⟩, ?_⟩
  have hreply : (Expectation.node .block).reply .default t =
      .take [⟨.scalar .none .plain f.key, t.mark⟩] [] := nodeReply_scalar ht
  have hstream : Events.ofStream (some fault) false [] [t] =
      Events.ofTokens .default (some fault) [.node .block] [t] := by
    simp [Events.ofStream, ht]
  rw [Document.ofString, htokens]
  simp only [hstream, ofTokens_take hreply]
  rfl

end Vendoring.Yaml
