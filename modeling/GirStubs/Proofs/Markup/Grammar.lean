import GirStubs.Markup.Document
import GirStubs.Proofs.Markup.AttributeList

/-!
# The grammar of documents

An event that is well formed stands for a `Token`. `Node` and `Content` are the derivations
of one element and of what stands inside it: each writes a sequence of tokens, and denotes
elements by recursion. A document is one node with tokens around it that say nothing
(`DocumentOf`). No stack occurs here; `Token.depthAfter` only counts what is open, and
`exists_content` finds the derivation behind a sequence that closes what it opens.
-/

namespace GirStubs.Markup

open Text

/-! ## Tokens -/

/-- What a start tag says. -/
structure Head where
  tag : String
  attributes : Attributes

inductive Token where
  | start (head : Head)
  | empty (head : Head)
  | stop
  | text (content : List Char)
  | ignored

/-- The name of a tag and the entries of its attribute list, whose keys must be distinct. -/
def HeadOf (content : List Char) (head : Head) : Prop :=
  head.tag = String.ofList (tagName content) ∧
    ∃ pairs, AttributeList (content.drop (tagName content).length) pairs ∧
      (pairs.map Prod.fst).Nodup ∧ EntriesOf pairs head.attributes.entries

/-- The token of a well-formed event. -/
inductive TokenOf : Event → Token → Prop where
  | start {content : List Char} {head : Head} (h : HeadOf content head) :
      TokenOf (.startTag content) (.start head)
  | empty {content : List Char} {head : Head} (h : HeadOf content head) :
      TokenOf (.emptyTag content) (.empty head)
  | stop (name : List Char) : TokenOf (.endTag name) .stop
  | text {raw content : List Char} (h : unescape raw = .ok content) :
      TokenOf (.text raw) (.text content)
  | characterData (content : List Char) : TokenOf (.characterData content) (.text content)
  | ignored : TokenOf .ignored .ignored

/-! ## Derivations -/

mutual

/-- An element: an empty tag, or a start tag, content and an end tag. -/
inductive Node where
  | empty (head : Head)
  | element (head : Head) (content : Content)

/-- What stands between a start tag and its end tag. -/
inductive Content where
  | nil
  | text (run : List Char) (rest : Content)
  | ignored (rest : Content)
  | child (node : Node) (rest : Content)

end

mutual

/-- The tokens that a node writes. -/
def Node.tokens : Node → List Token
  | .empty head => [.empty head]
  | .element head content => .start head :: (content.tokens ++ [.stop])

/-- The tokens that some content writes. -/
def Content.tokens : Content → List Token
  | .nil => []
  | .text run rest => .text run :: rest.tokens
  | .ignored rest => .ignored :: rest.tokens
  | .child node rest => node.tokens ++ rest.tokens

end

/-- The runs of text before the first child. -/
def Content.leadingTexts : Content → List (List Char)
  | .text run rest => run :: rest.leadingTexts
  | .ignored rest => rest.leadingTexts
  | .nil | .child _ _ => []

/-- The text before the first child, when there is any run of it. -/
def Content.text? (content : Content) : Option String :=
  match content.leadingTexts with
  | [] => none
  | runs => some (String.ofList runs.flatten)

mutual

/-- The element that a node denotes. -/
def Node.denote : Node → Element
  | .empty head => { tag := head.tag, attributes := head.attributes }
  | .element head content =>
    ⟨head.tag, head.attributes, content.text?, content.children⟩

/-- The elements that some content denotes. -/
def Content.children : Content → List Element
  | .nil => []
  | .text _ rest | .ignored rest => rest.children
  | .child node rest => node.denote :: rest.children

end

/-- A token that says nothing around the root: white space, or what is ignored everywhere. -/
def Token.IsMisc : Token → Prop
  | .text content => trim content = []
  | .ignored => True
  | _ => False

/-- The tokens of a document with a tree: those of one node, and some that say nothing. -/
def DocumentOf (tokens : List Token) (tree : Element) : Prop :=
  ∃ before node after, tokens = before ++ Node.tokens node ++ after ∧
    (∀ token ∈ before, token.IsMisc) ∧ (∀ token ∈ after, token.IsMisc) ∧ tree = node.denote

/-! ## What is open -/

/-- The number of open elements behind a token, if the token may stand there. -/
def Token.depthAfter (depth : Nat) : Token → Option Nat
  | .start _ => some (depth + 1)
  | .stop =>
    match depth with
    | 0 => none
    | outer + 1 => some outer
  | _ => some depth

/-- All that is open behind a sequence of tokens has been closed, and nothing else. -/
inductive Closes : Nat → List Token → Prop where
  | nil : Closes 0 []
  | cons {depth next : Nat} {token : Token} {rest : List Token}
      (hdepth : token.depthAfter depth = some next) (hrest : Closes next rest) :
      Closes depth (token :: rest)

theorem Closes.exists_content {depth : Nat} {tokens : List Token} (h : Closes (depth + 1) tokens) :
    ∃ content rest, tokens = Content.tokens content ++ .stop :: rest ∧ Closes depth rest := by
  induction hn : tokens.length using Nat.strongRecOn generalizing depth tokens with
  | ind n ih =>
    subst hn
    rcases h with _ | @⟨_, next, token, rest, hdepth, hrest⟩
    have hlt : rest.length < (token :: rest).length := Nat.lt_succ_self _
    cases token with
    | start head =>
      cases hdepth
      -- The child's own content comes first; what stands behind its end tag is shorter still.
      obtain ⟨inner, behind, rfl, hbehind⟩ := ih _ hlt hrest rfl
      have hshort : behind.length <
          (Token.start head :: (inner.tokens ++ .stop :: behind)).length := by
        simp only [List.length_cons, List.length_append]
        omega
      obtain ⟨content, rest, rfl, hclose⟩ := ih _ hshort hbehind rfl
      refine ⟨.child (.element head inner) content, rest, ?_, hclose⟩
      simp [Content.tokens, Node.tokens]
    | empty head =>
      cases hdepth
      obtain ⟨content, rest, rfl, hclose⟩ := ih _ hlt hrest rfl
      exact ⟨.child (.empty head) content, rest, by simp [Content.tokens, Node.tokens], hclose⟩
    | stop =>
      cases hdepth
      exact ⟨.nil, rest, by simp [Content.tokens], hrest⟩
    | text run =>
      cases hdepth
      obtain ⟨content, rest, rfl, hclose⟩ := ih _ hlt hrest rfl
      exact ⟨.text run content, rest, by simp [Content.tokens], hclose⟩
    | ignored =>
      cases hdepth
      obtain ⟨content, rest, rfl, hclose⟩ := ih _ hlt hrest rfl
      exact ⟨.ignored content, rest, by simp [Content.tokens], hclose⟩

end GirStubs.Markup
