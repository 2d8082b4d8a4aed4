import Mathlib.Data.List.Forall2
import Mathlib.Data.List.TakeWhile
import WikiSync.Proofs.Sync.DryRun
import WikiSync.Proofs.Web.Percent
import WikiSync.Web.Offline

/-!
# Request Targets Read Back

What a server reads from the target of a request. A target is a path and a query. The query
starts at the first question mark, and a number sign would end both. The path is cut at
slashes into segments, the query at ampersands into parameters, and a parameter at its
first equals sign into a name and a value.

A client puts ids into the path and the space and the title into the query, all of them
percent-encoded. None of the marks is left in an encoded text, so every id is one segment
and every title is one value, whatever is in it: `Target.read_spell` needs nothing else.
What is read is what was asked for, and hence two calls with different ids, or different
spaces and titles, never go to the same target.

The path starts with that of the site. It comes in front of the rest, with the segments that
it has, as long as it holds neither a question mark nor a number sign.

## Main definitions

* `Target`, `Target.read`, `Target.spell`: Targets, read and written.
* `Target.Names`: A target with everything that a call names.
* `StoreCall.names`: What a call names.

## Theorems

* `Target.read_spell`: A target reads back.
* `Target.Names.unique`: A target names one thing only.
* `Client.names_targetOf`: The target of a call names what the call names.
* `Client.targets_read_back`: What a server reads from the requests of a client.
-/

namespace WikiSync

open Percent (Escaped Spells isUnreserved)

/-! ### Targets -/

/-- What a server reads from a target: the segments of its path, and the parameters of its
query, all of them still encoded. -/
structure Target where
  segments : List (List Char)
  parameters : List (List Char × List Char)
deriving DecidableEq

namespace Target

/-- What stands in front of the first mark. -/
def before (mark : Char) (cs : List Char) : List Char :=
  cs.takeWhile (· != mark)

/-- What stands behind the first mark, if there is one. -/
def behind? (mark : Char) (cs : List Char) : Option (List Char) :=
  (cs.dropWhile (· != mark)).tail?

/-- Reads a parameter. Without an equals sign it has no value. -/
def readParameter (cs : List Char) : List Char × List Char :=
  (before '=' cs, (behind? '=' cs).getD [])

/-- Reads a target. -/
def read (cs : List Char) : Target :=
  let shown := before '#' cs
  let query := (behind? '?' shown).map fun query => (query.splitOn '&').map readParameter
  ⟨(before '?' shown).splitOn '/', query.getD []⟩

/-- The written form of a parameter. -/
def spellParameter (p : List Char × List Char) : List Char :=
  p.1 ++ '=' :: p.2

/-- Texts with a mark in front of each of them. -/
def spellMarked (mark : Char) (parts : List (List Char)) : List Char :=
  parts.flatMap (mark :: ·)

/-- The written form of a query, if there is one. -/
def spellQuery : List (List Char × List Char) → List Char
  | [] => []
  | p :: ps => '?' :: (spellParameter p ++ spellMarked '&' (ps.map spellParameter))

/-- The written form of a target. -/
def spell (t : Target) : List Char :=
  spellMarked '/' t.segments ++ spellQuery t.parameters

/-- The characters that cut a target into pieces. -/
def marks : List Char :=
  ['/', '?', '#', '&', '=']

/-- A text without marks. -/
def Whole (cs : List Char) : Prop :=
  ∀ mark ∈ marks, mark ∉ cs

instance (cs : List Char) : Decidable (Whole cs) :=
  decidable_of_iff (marks.all (fun mark => !cs.contains mark) = true) <| by
    simp only [Whole, List.all_eq_true, Bool.not_eq_true', ← Bool.not_eq_true,
      List.contains_iff_mem]

/-- A target of which no segment, name or value holds a mark. -/
def Proper (t : Target) : Prop :=
  (∀ s ∈ t.segments, Whole s) ∧ ∀ p ∈ t.parameters, Whole p.1 ∧ Whole p.2

/-- Escaped texts hold no mark. -/
theorem whole_of_escaped {cs : List Char} (h : Escaped cs) : Whole cs := by
  have hmarks : marks.all (fun mark => !isUnreserved mark && mark != '%') = true := by decide
  simp only [List.all_eq_true, Bool.and_eq_true, Bool.not_eq_true', bne_iff_ne] at hmarks
  exact fun mark hmark => h.not_mem (hmarks mark hmark).1 (hmarks mark hmark).2

/-! ### Reading back -/

theorem before_append {mark : Char} {cs : List Char} (h : mark ∉ cs) (ds : List Char) :
    before mark (cs ++ mark :: ds) = cs ∧ behind? mark (cs ++ mark :: ds) = some ds := by
  have hall : ∀ c ∈ cs, (c != mark) = true := fun c hc => bne_iff_ne.2 fun heq => h (heq ▸ hc)
  rw [before, behind?, List.takeWhile_append_of_pos hall, List.dropWhile_append_of_pos hall]
  simp only [List.takeWhile_cons, List.dropWhile_cons, bne_self_eq_false, Bool.false_eq_true,
    if_false, List.append_nil, List.tail?_cons, and_self]

theorem before_of_not_mem {mark : Char} {cs : List Char} (h : mark ∉ cs) :
    before mark cs = cs ∧ behind? mark cs = none := by
  have hall : ∀ c ∈ cs, (c != mark) = true := fun c hc => bne_iff_ne.2 fun heq => h (heq ▸ hc)
  rw [before, behind?, List.takeWhile_eq_self_iff.2 hall, List.dropWhile_eq_nil_iff.2 hall]
  exact ⟨rfl, rfl⟩

theorem readParameter_spell {p : List Char × List Char} (h : Whole p.1) :
    readParameter (spellParameter p) = p := by
  rcases before_append (h '=' (by decide)) p.2 with ⟨hname, hvalue⟩
  rw [readParameter, spellParameter, hname, hvalue]
  rfl

/-- Texts with marks in front of them are cut off what comes before, one by one. -/
theorem splitOn_append_spellMarked (mark : Char) (front : List Char) {parts : List (List Char)}
    (h : ∀ part ∈ parts, mark ∉ part) :
    (front ++ spellMarked mark parts).splitOn mark = front.splitOn mark ++ parts := by
  induction parts generalizing front with
  | nil => rw [spellMarked, List.flatMap_nil, List.append_nil, List.append_nil]
  | cons part parts ih =>
    rcases List.forall_mem_cons.1 h with ⟨hpart, hparts⟩
    have hfront : front ++ spellMarked mark (part :: parts) =
        front ++ mark :: part ++ spellMarked mark parts := by
      simp only [spellMarked, List.flatMap_cons, List.cons_append, List.append_assoc]
    rw [hfront, ih _ hparts, List.splitOn_append_cons_self, List.splitOn_eq_singleton hpart,
      List.append_assoc, List.singleton_append]

theorem not_mem_spellMarked {c mark : Char} {parts : List (List Char)} (hmark : c ≠ mark)
    (h : ∀ part ∈ parts, c ∉ part) : c ∉ spellMarked mark parts := by
  intro hc
  rcases List.mem_flatMap.1 hc with ⟨part, hpart, hc⟩
  rcases List.mem_cons.1 hc with heq | hc
  · exact hmark heq
  · exact h part hpart hc

theorem not_mem_spellParameter {c : Char} {p : List Char × List Char} (hequals : c ≠ '=')
    (hmark : c ∈ marks) (hp : Whole p.1 ∧ Whole p.2) : c ∉ spellParameter p := by
  simp only [spellParameter, List.mem_append, List.mem_cons, not_or]
  exact ⟨hp.1 c hmark, hequals, hp.2 c hmark⟩

/-- The parameters of a query, which holds no number sign. -/
theorem spellQuery_cases {ps : List (List Char × List Char)}
    (h : ∀ p ∈ ps, Whole p.1 ∧ Whole p.2) :
    (spellQuery ps = [] ∧ ps = []) ∨
      ∃ query, spellQuery ps = '?' :: query ∧ '#' ∉ query ∧
        (query.splitOn '&').map readParameter = ps := by
  rcases ps with _ | ⟨p, ps⟩
  · exact Or.inl ⟨rfl, rfl⟩
  · rcases List.forall_mem_cons.1 h with ⟨hp, hps⟩
    have hparts (c : Char) (hequals : c ≠ '=') (hmark : c ∈ marks) :
        ∀ part ∈ ps.map spellParameter, c ∉ part :=
      List.forall_mem_map.2 fun q hq => not_mem_spellParameter hequals hmark (hps q hq)
    refine Or.inr ⟨_, rfl, ?_, ?_⟩
    · rw [List.mem_append, not_or]
      exact ⟨not_mem_spellParameter (by decide) (by decide) hp,
        not_mem_spellMarked (by decide) (hparts '#' (by decide) (by decide))⟩
    · rw [splitOn_append_spellMarked '&' _ (hparts '&' (by decide) (by decide)),
        List.splitOn_eq_singleton (not_mem_spellParameter (by decide) (by decide) hp),
        List.map_append, List.map_singleton, readParameter_spell hp.1, List.map_map]
      have hread : ∀ q ∈ ps, (readParameter ∘ spellParameter) q = q := fun q hq =>
        readParameter_spell (hps q hq).1
      rw [List.map_congr_left hread, List.map_id', List.singleton_append]

/-- A target reads back, behind the path of a site. -/
theorem read_spell {t : Target} (h : t.Proper) {front : List Char} (hquestion : '?' ∉ front)
    (hnumber : '#' ∉ front) :
    read (front ++ t.spell) = ⟨front.splitOn '/' ++ t.segments, t.parameters⟩ := by
  have hpath (c : Char) (hslash : c ≠ '/') (hmark : c ∈ marks) (hfront : c ∉ front) :
      c ∉ front ++ spellMarked '/' t.segments := by
    rw [List.mem_append, not_or]
    exact ⟨hfront, not_mem_spellMarked hslash fun s hs => h.1 s hs c hmark⟩
  have hsegments := splitOn_append_spellMarked '/' front fun s hs => h.1 s hs '/' (by decide)
  have hend := hpath '#' (by decide) (by decide) hnumber
  have hstart := hpath '?' (by decide) (by decide) hquestion
  rw [spell, ← List.append_assoc]
  unfold read
  rcases spellQuery_cases h.2 with ⟨hnone, hps⟩ | ⟨query, hquery, hnumber', hps⟩
  · rw [hnone, List.append_nil]
    simp only [(before_of_not_mem hend).1, (before_of_not_mem hstart).1,
      (before_of_not_mem hstart).2, Option.map_none, Option.getD_none, hsegments, hps]
  · have hwhole : '#' ∉ front ++ spellMarked '/' t.segments ++ '?' :: query := by
      simp only [List.mem_append, List.mem_cons, not_or] at hend ⊢
      exact ⟨hend, by decide, hnumber'⟩
    rw [hquery]
    simp only [(before_of_not_mem hwhole).1, (before_append hstart query).1,
      (before_append hstart query).2, Option.map_some, Option.getD_some, hsegments, hps]

end Target

/-! ### The targets of calls -/

/-- Everything that a call names in its target. -/
def StoreCall.names : StoreCall → List String
  | .getPage pageId | .updatePage pageId _ _ _ | .listAttachments pageId | .upload pageId _ =>
    [pageId]
  | .findPage space title => [space, title]
  | .createPage _ _ _ _ => []
  | .replace pageId attachmentId _ => [pageId, attachmentId]

namespace Target

/-- The segments of the interface for programs, behind those of the site. -/
def content (site : List (List Char)) : List (List Char) :=
  site ++ ["rest".toList, "api".toList, "content".toList]

/-- A target with everything that a call names, behind the path of a site. An id is a
segment of its own, and so is the id of an attachment. The space and the title are values
of their own. Nothing else is in the target but fixed segments and parameters. -/
def Names (site : List (List Char)) (t : Target) : StoreCall → Prop
  | .getPage pageId => ∃ p, Spells p pageId ∧
    t = ⟨content site ++ [p], [("expand".toList, Client.pageExpand.toList)]⟩
  | .findPage space title => ∃ s e, Spells s space ∧ Spells e title ∧
    t = ⟨content site, [("spaceKey".toList, s), ("title".toList, e),
      ("expand".toList, Client.searchExpand.toList)]⟩
  | .createPage _ _ _ _ => t = ⟨content site, []⟩
  | .updatePage pageId _ _ _ => ∃ p, Spells p pageId ∧ t = ⟨content site ++ [p], []⟩
  | .listAttachments pageId | .upload pageId _ => ∃ p, Spells p pageId ∧
    t = ⟨content site ++ [p, "child".toList, "attachment".toList], []⟩
  | .replace pageId attachmentId _ => ∃ p a, Spells p pageId ∧ Spells a attachmentId ∧
    t = ⟨content site ++ [p, "child".toList, "attachment".toList, a, "data".toList], []⟩

/-- The parts of a target that stand for what a call names. -/
def encodedNames (site : List (List Char)) (t : Target) : List (List Char) :=
  let path := t.segments.drop (content site).length
  let values := (t.parameters.filter fun p => p.1 ≠ "expand".toList).map (·.2)
  path[0]?.toList ++ path[3]?.toList ++ values

theorem spells_encodedNames {site : List (List Char)} {t : Target} {call : StoreCall}
    (h : t.Names site call) : List.Forall₂ Spells (t.encodedNames site) call.names := by
  unfold encodedNames
  cases call with
  | getPage pageId | updatePage pageId _ _ _ | listAttachments pageId | upload pageId _ =>
    rcases h with ⟨p, hp, rfl⟩
    rw [List.drop_left]
    exact .cons hp .nil
  | findPage space title =>
    rcases h with ⟨s, e, hs, he, rfl⟩
    rw [List.drop_length]
    exact .cons hs (.cons he .nil)
  | createPage space title markup parent =>
    cases h
    rw [List.drop_length]
    exact .nil
  | replace pageId attachmentId _ =>
    rcases h with ⟨p, a, hp, ha, rfl⟩
    rw [List.drop_left]
    exact .cons hp (.cons ha .nil)

/-- A target names one thing only. -/
theorem Names.unique {site : List (List Char)} {t : Target} {call call' : StoreCall}
    (h : t.Names site call) (h' : t.Names site call') : call.names = call'.names := by
  have hunique : Relator.RightUnique Spells := fun _ _ _ => Spells.unique
  exact List.right_unique_forall₂' hunique (spells_encodedNames h) (spells_encodedNames h')

end Target

namespace Client

open Target (content)

/-- The target of a call, behind the path of the site. -/
def targetOf : StoreCall → Target
  | .getPage pageId =>
    ⟨content [] ++ [(Percent.encode pageId).toList], [("expand".toList, pageExpand.toList)]⟩
  | .findPage space title =>
    ⟨content [], [("spaceKey".toList, (Percent.encode space).toList),
      ("title".toList, (Percent.encode title).toList), ("expand".toList, searchExpand.toList)]⟩
  | .createPage _ _ _ _ => ⟨content [], []⟩
  | .updatePage pageId _ _ _ => ⟨content [] ++ [(Percent.encode pageId).toList], []⟩
  | .listAttachments pageId | .upload pageId _ =>
    ⟨content [] ++ [(Percent.encode pageId).toList, "child".toList, "attachment".toList], []⟩
  | .replace pageId attachmentId _ =>
    ⟨content [] ++ [(Percent.encode pageId).toList, "child".toList, "attachment".toList,
      (Percent.encode attachmentId).toList, "data".toList], []⟩

/-- Neither the fixed parts of a target nor the encoded ones hold a mark. -/
theorem proper_targetOf (call : StoreCall) : (targetOf call).Proper := by
  have hencoded (s : String) : Target.Whole (Percent.encode s).toList :=
    Target.whole_of_escaped (Percent.spells_encode s).escaped
  have hfixed : ∀ s ∈ ["rest", "api", "content", "child", "attachment", "data", "spaceKey",
      "title", "expand", pageExpand, searchExpand], Target.Whole s.toList := by decide
  simp only [List.forall_mem_cons, List.not_mem_nil, false_implies, implies_true, and_true]
    at hfixed
  cases call
  all_goals
    simp only [Target.Proper, targetOf, content, List.nil_append, List.cons_append,
      List.forall_mem_cons, List.not_mem_nil, false_implies, implies_true, hencoded, hfixed,
      and_self]

theorem toList_target (c : Client) (call : StoreCall) :
    (c.target call).toList = c.siteUrl.toList ++ (targetOf call).spell := by
  cases call
  all_goals
    simp [target, attachmentsUrl, contentUrl, apiUrl, targetOf, content, Target.spell,
      Target.spellMarked, Target.spellQuery, Target.spellParameter, String.toList_append]

theorem names_targetOf (site : List (List Char)) (call : StoreCall) :
    Target.Names site ⟨site ++ (targetOf call).segments, (targetOf call).parameters⟩ call := by
  have hsite (tail : List (List Char)) : site ++ (content [] ++ tail) = content site ++ tail := by
    simp only [content, List.nil_append, List.append_assoc]
  cases call with
  | getPage pageId | updatePage pageId _ _ _ | listAttachments pageId | upload pageId _ =>
    exact ⟨_, Percent.spells_encode pageId, by rw [targetOf, hsite]⟩
  | findPage space title =>
    exact ⟨_, _, Percent.spells_encode space, Percent.spells_encode title, rfl⟩
  | createPage space title markup parent => exact rfl
  | replace pageId attachmentId _ =>
    exact ⟨_, _, Percent.spells_encode pageId, Percent.spells_encode attachmentId,
      by rw [targetOf, hsite]⟩

/-- What a server reads from the requests of a client. A call is one request. Its target
starts with the address of the site, and behind the path of the site it reads as the
segments and parameters that the call has, with everything that it names in a segment or a
value of its own, percent-encoded. So calls that name different things have different
targets. -/
theorem targets_read_back (c : Client) :
    (∀ {τ : Type} (n : Machine Web τ) (w : τ) (call : StoreCall) (sent : Nat),
      ∃ request rest, ((c.answer call sent).run n w).asked = [request] ∧
        request.url.toList = c.siteUrl.toList ++ rest ∧
        ∀ front : List Char, '?' ∉ front → '#' ∉ front →
          (Target.read (front ++ rest)).Names (front.splitOn '/') call) ∧
    ∀ call call', c.target call = c.target call' → call.names = call'.names := by
  have hread (call : StoreCall) (front : List Char) (hquestion : '?' ∉ front)
      (hnumber : '#' ∉ front) :
      (Target.read (front ++ (targetOf call).spell)).Names (front.splitOn '/') call := by
    rw [Target.read_spell (proper_targetOf call) hquestion hnumber]
    exact names_targetOf _ call
  refine ⟨fun n w call sent => ⟨_, (targetOf call).spell, c.asked_answer n call sent w, ?_,
    hread call⟩, fun call call' h => ?_⟩
  · rw [url_request, toList_target]
  · have hspell : (targetOf call).spell = (targetOf call').spell := by
      rw [← String.toList_inj, toList_target, toList_target] at h
      exact List.append_cancel_left h
    have hcall' := hread call' [] List.not_mem_nil List.not_mem_nil
    rw [← hspell] at hcall'
    exact (hread call [] List.not_mem_nil List.not_mem_nil).unique hcall'

/-- A title with every mark in it, on a site below a path. Where the ampersand stands makes a
difference. -/
theorem targets_read_back_markedTitle :
    let c := Client.new "https://wiki.example.com/team" "user@example.com" "token" fun _ => "form"
    let title := "a=b%26c/d?#+ \u00E9"
    '?' ∉ "/team".toList ∧ '#' ∉ "/team".toList ∧
      (∃ request rest,
        ((c.answer (.findPage "R&D" title) 0).run Web.offline ()).asked = [request] ∧
        request.url.toList = c.siteUrl.toList ++ rest ∧
        ∃ s e, Spells s "R&D" ∧ Spells e title ∧
          Target.read ("/team".toList ++ rest) =
            ⟨["", "team", "rest", "api", "content"].map String.toList,
              [("spaceKey".toList, s), ("title".toList, e),
                ("expand".toList, searchExpand.toList)]⟩) ∧
      c.target (.findPage "A" "B&C") ≠ c.target (.findPage "A&B" "C") := by
  intro c title
  have hquestion : '?' ∉ "/team".toList := by decide
  have hnumber : '#' ∉ "/team".toList := by decide
  rcases targets_read_back c with ⟨hreads, hnames⟩
  rcases hreads Web.offline () (.findPage "R&D" title) 0 with ⟨request, rest, hasked, hurl, hread⟩
  rcases hread "/team".toList hquestion hnumber with ⟨s, e, hs, he, htarget⟩
  have hfront : content ("/team".toList.splitOn '/') =
      ["", "team", "rest", "api", "content"].map String.toList := by decide
  rw [hfront] at htarget
  refine ⟨hquestion, hnumber, ⟨request, rest, hasked, hurl, s, e, hs, he, htarget⟩, fun heq => ?_⟩
  exact absurd (hnames _ _ heq) (by decide)

end Client

end WikiSync
