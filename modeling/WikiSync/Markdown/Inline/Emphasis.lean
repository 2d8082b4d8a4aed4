import WikiSync.Markdown.Inline

/-!
# Emphasis

How runs of `*`, `_` and `~` pair up. A run that may close looks back for the
nearest run of its own character that may open and agrees with it. Whatever
opened in between stays text. The two runs then wrap what lies between them in
as many spans as the shorter one allows, two characters for strong emphasis
and one for emphasis, and what is left of either run goes on looking.

Two runs agree if their lengths are not, together, a multiple of three, where
one of them could both open and close; runs that are both multiples of three
always agree. Tildes agree only with a run of their own length, and a run of
tildes that finds no partner closes off every tilde before it.

## Main definitions

* `Piece`: Finished content, or a run that waits for a partner.
* `resolveEmphasis`: Pairs up the runs of a list of pieces.
-/

namespace WikiSync.Markdown

/-- A run of one character that may open or close a span. -/
structure Run where
  mark : Char
  length : Nat
  opens : Bool
  closes : Bool

/-- Finished content, or a run that waits for a partner. -/
inductive Piece where
  | done (content : Inline)
  | run (r : Run)

namespace Emphasis

/-- An open run: what is left of it, and the content after it, latest first. -/
structure Opener where
  run : Run
  left : Nat
  content : List Inline

/-- A half-finished resolution: the open runs, innermost first, the content
before the outermost, latest first, and how many of the outermost runs are
closed off to tildes. -/
structure Stack where
  openers : List Opener
  base : List Inline
  tildeFloor : Nat

/-- The characters of a run, as text. -/
def runText (mark : Char) (n : Nat) : List Inline :=
  if n = 0 then [] else [.text (String.ofList (List.replicate n mark))]

/-- Adds finished content, latest first, after everything read so far. -/
def Stack.add (s : Stack) (content : List Inline) : Stack :=
  match s.openers with
  | [] => { s with base := content ++ s.base }
  | o :: rest => { s with openers := { o with content := content ++ o.content } :: rest }

/-- Whether an open run and a closing run agree. -/
def agrees (o : Opener) (closer : Run) : Bool :=
  let eitherBoth := (closer.opens && closer.closes) || (o.run.opens && o.run.closes)
  o.run.mark == closer.mark &&
    (closer.mark != '~' || o.run.length == closer.length) &&
    (!eitherBoth || (o.run.length + closer.length) % 3 != 0 || closer.length % 3 == 0)

/-- The content that two runs wrap, `n` characters being taken from each:
strong emphasis inside, emphasis outside. -/
def wrap (mark : Char) (content : List Inline) : Nat → List Inline
  | 0 => content
  | 1 => [if mark = '~' then .strikethrough content else .emphasis content]
  | n + 2 => wrap mark [if mark = '~' then .strikethrough content else .strong content] n

/-- Looks for the nearest opener that agrees, `above` being the content from
the ones already passed over on, in order. Gives the opener, all content after
it in order, and the openers below. -/
def findOpener (closer : Run) (floor : Nat) :
    List Opener → List Inline → Option (Opener × List Inline × List Opener)
  | [], _ => none
  | o :: below, above =>
    if closer.mark = '~' ∧ below.length < floor then none
    else
      let above := o.content.reverse ++ above
      if agrees o closer then some (o, above, below)
      else findOpener closer floor below (runText o.run.mark o.left ++ above)

/-- Closes as many spans as a run can, `left` being what is left of it, in at
most `fuel` steps. -/
def close (closer : Run) : Nat → Nat → Stack → Nat × Stack
  | 0, left, s => (left, s)
  | fuel + 1, left, s =>
    if left = 0 then (0, s)
    else match findOpener closer s.tildeFloor s.openers [] with
      | none =>
        let floor := if closer.mark = '~' then s.openers.length else s.tildeFloor
        (left, { s with tildeFloor := floor })
      | some (o, content, below) =>
        let n := min left o.left
        let span := wrap closer.mark content n
        let s : Stack := { s with openers := below, tildeFloor := min s.tildeFloor below.length }
        let s :=
          if o.left > n then
            { s with openers := { o with left := o.left - n, content := span } :: s.openers }
          else s.add span
        close closer fuel (left - n) s

/-- Takes in one more piece. -/
def Stack.push (s : Stack) : Piece → Stack
  | .done content => s.add [content]
  | .run r =>
    let (left, s) := if r.closes then close r r.length r.length s else (r.length, s)
    if left = 0 then s
    else if r.opens then { s with openers := ⟨r, left, []⟩ :: s.openers }
    else s.add (runText r.mark left)

/-- All content in order, the runs that found no partner as text. -/
def Stack.finish (s : Stack) : List Inline :=
  ((s.openers.foldr (fun o acc => o.content ++ runText o.run.mark o.left ++ acc) s.base)).reverse

end Emphasis

/-- Pairs up the runs of a list of pieces. -/
def resolveEmphasis (pieces : List Piece) : List Inline :=
  (pieces.foldl Emphasis.Stack.push ⟨[], [], 0⟩).finish

end WikiSync.Markdown
