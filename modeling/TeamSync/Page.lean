import TeamSync.Session

/-!
Listings in pages: a page token says where to carry on, and the empty token says to start or, after
a page, that there is no more.
-/

namespace TeamSync

/-- Where a listing is to be carried on. The empty text is both the start and the end. -/
structure PageToken where
  text : String
  deriving DecidableEq, Repr

namespace PageToken

def start : PageToken := ⟨""⟩

def isStart (t : PageToken) : Bool := t.text = ""

def phase (t : PageToken) : Phase := if t.isStart then .start else .continuing

end PageToken

/-- A page of a listing. -/
structure Page (α : Type) where
  items : List α
  cursor : String
  hasMore : Bool
  rateLimit : RateLimit
  deriving DecidableEq, Repr

namespace Page

variable {α : Type}

/-- A page that announces another has to say how to get it. -/
def validated (p : Page α) (listing : Listing) : Except Error (Page α) :=
  if p.hasMore && p.cursor = "" then .error (.pagination (.missingCursor listing.name)) else .ok p

/-- The token of the next page; a cursor counts only if there is one. -/
def nextToken (p : Page α) : PageToken := if p.hasMore then ⟨p.cursor⟩ else .start

end Page

/-- Refuses to carry on without a cursor. -/
def requireCursor (listing : Listing) (cursor : String) : Except Error Unit :=
  if cursor = "" then .error (.pagination (.emptyCursor listing.name)) else .ok ()

/-- A listing that can be started and carried on. -/
structure Paged (α : Type) where
  listing : Listing
  begin : Step (Page α)
  resume : String → Step (Page α)

/-- A whole listing: its items, how many pages they came in, and the last page's rate limit. -/
structure Drained (α : Type) where
  items : List α
  pages : Nat
  rateLimit : RateLimit
  deriving DecidableEq, Repr

namespace Paged

variable {α : Type}

/-- The page of a token. -/
def fetch (p : Paged α) (token : PageToken) : Step (Page α) := do
  let page ← if token.isStart then p.begin else p.resume token.text
  Step.ofExcept (page.validated p.listing)

/-- Goes on through the pages. Once `budget` pages have used up what the session has in supply,
every page is the same, so a page that still announces another announces one for ever. -/
def drainFrom (p : Paged α) (budget : Nat) (token : PageToken) (before : List α) (pages : Nat) :
    Step (Drained α) := do
  let page ← p.fetch token
  let items := before ++ page.items
  if page.nextToken.isStart then pure ⟨items, pages + 1, page.rateLimit⟩
  else match budget with
    | 0 => Step.fail (.pagination (.endless p.listing.name))
    | budget + 1 => p.drainFrom budget page.nextToken items (pages + 1)

/-- Goes through all pages. -/
def drain (p : Paged α) : Step (Drained α) := fun s => p.drainFrom s.supply .start [] 0 s

end Paged

end TeamSync
