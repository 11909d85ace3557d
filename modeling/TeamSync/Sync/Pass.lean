import TeamSync.Graph.Annotation

/-!
A pass over a listing, driven by a host: the token of each page is fed back until it is empty.
-/

namespace TeamSync

/-- What a pass has brought so far: the items, the token each page handed out, and what made it
stop early. -/
structure Pass (α : Type) where
  items : List α
  tokens : List PageToken
  failed : Option Error

namespace Pass

variable {α : Type}

def empty : Pass α := ⟨[], [], none⟩

/-- The pass with one more page. -/
def add (p : Pass α) (page : SyncPage α) : Pass α :=
  { p with items := p.items ++ page.items, tokens := p.tokens ++ [page.next] }

/-- Asks for the page of a token and goes on, for at most `budget` more pages. -/
def follow (list : PageToken → Step (SyncPage α)) (budget : Nat) (token : PageToken) (p : Pass α) :
    Step (Pass α) := do
  match ← (list token).attempt with
  | .error e => pure { p with failed := some e }
  | .ok page =>
    let p := p.add page
    if page.next.isStart then pure p
    else match budget with
      | 0 => pure p
      | budget + 1 => follow list budget page.next p

/-- Goes on from the token of the last good page also after a failure, for at most `calls` calls. -/
def persist (list : PageToken → Step (SyncPage α)) :
    (calls : Nat) → PageToken → Pass α → Step (Pass α)
  | 0, _, p => pure p
  | calls + 1, token, p => do
    match ← (list token).attempt with
    | .error e => persist list calls token { p with failed := some e }
    | .ok page =>
      let p := { p.add page with failed := none }
      if page.next.isStart then pure p else persist list calls page.next p

/-- Goes on from a token to the end. Once the supply of the session is used up every page is the
same, so a pass that has not ended by then never does. -/
def run (list : PageToken → Step (SyncPage α)) (token : PageToken) : Step (Pass α) :=
  fun s => follow list s.supply token .empty s

end Pass

end TeamSync
