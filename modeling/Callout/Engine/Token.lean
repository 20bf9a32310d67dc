/-!
Cancellation tokens. A token may hang below another one. Cancelling a token cancels every token below it, and
a token that is made below a cancelled one is cancelled from the start. A cancelled token stays cancelled.
-/
namespace Callout

/-- A cancellation token, by its place among the tokens. -/
structure Token where
  index : Nat
deriving DecidableEq, Repr, Inhabited

/-- What is kept of a token. -/
structure TokenState where
  /-- The token that it hangs below; an earlier one. -/
  parent? : Option Token
  cancelled : Bool
deriving DecidableEq, Repr, Inhabited

/-- All tokens that were made, in the order in which they were made. -/
structure TokenTree where
  states : List TokenState
deriving DecidableEq, Repr, Inhabited

namespace TokenTree

/-- The token that all others hang below. -/
def root : Token := ⟨0⟩

/-- The tree of one token that is not cancelled. -/
def new : TokenTree := ⟨[⟨none, false⟩]⟩

/-- Whether one of some tokens, given by their places, is cancelled. -/
def flagAt (states : List TokenState) (t : Token) : Bool := (states[t.index]?).any (·.cancelled)

/-- Whether a token is cancelled. -/
def isCancelled (tree : TokenTree) (t : Token) : Bool := flagAt tree.states t

/-- A new token below another one. -/
def child (tree : TokenTree) (parent : Token) : TokenTree × Token :=
  (⟨tree.states ++ [⟨some parent, tree.isCancelled parent⟩]⟩, ⟨tree.states.length⟩)

/-- Tokens after one of them is cancelled, given those before. Since a token comes after the one it hangs
below, one pass reaches all that are below the cancelled one. -/
def cancelFrom (t : Token) (before : List TokenState) : List TokenState → List TokenState
  | [] => before
  | state :: rest =>
    let hit := before.length = t.index || (state.parent?.any fun p => flagAt before p)
    cancelFrom t (before ++ [{ state with cancelled := state.cancelled || hit }]) rest

/-- The tokens after one of them is cancelled. -/
def cancel (tree : TokenTree) (t : Token) : TokenTree := ⟨cancelFrom t [] tree.states⟩

end TokenTree
end Callout
