/-
  Asking for a token while a token is drawn.

  Tokens for missing values may be drawn from a tree of texts, and nodes of that tree may ask for such
  a token themselves.  A run settles at once what those get (`Run.defaultMissing`).  Here the style is
  what it is in a program that runs: it stands in a slot, a request takes the generator out, lets it
  draw, requests and all, and puts it back; a request that finds the slot empty gives a negative
  integer.  A draw that makes requests on its way is a `Dialogue`, so nothing is supposed of the
  generator.  Requests go no deeper than two, since those that it makes find the slot empty; after each
  the generator is back in the slot, whatever that came to, and what it came to is what the run says.
-/
import SyntheticTables.Proofs.Config.DeclaredType
import SyntheticTables.Proofs.Draw.Footprint
import SyntheticTables.Proofs.Random.Range
import Mathlib.Tactic.Choose

namespace SyntheticTables

open Draw

/-! ## Dialogues -/

/-- A draw that may ask for tokens: it has come to its end, or it asks and goes on with the answer
    and the state that the answer leaves. -/
inductive Dialogue (α : Type) where
  | done (result : Except GenError α) (s : State)
  | ask (s : State) (next : Except GenError String → State → Dialogue α)

namespace Dialogue

variable {α β : Type}

/-- What it comes to if every question is answered by a draw, in the state in which it is asked. -/
def answered (answer : Draw String) : Dialogue α → Except GenError α × State
  | done result s => (result, s)
  | ask s next => (next (answer s).1 (answer s).2).answered answer

/-- Goes on with the value, if there is one; all questions of the first part come before those of
    the second. -/
def andThen (f : α → State → Dialogue β) : Dialogue α → Dialogue β
  | done (.ok a) s => f a s
  | done (.error e) s => done (.error e) s
  | ask s next => ask s fun answer s' => (next answer s').andThen f

end Dialogue

/-- A generator that may ask for tokens while it draws. -/
abbrev Speaker (α : Type) := State → Dialogue α

/-- The generator draws what `m` draws, whatever the tokens are drawn from: its questions are where
    `m` has its argument. -/
def Speaker.Voices {α : Type} (g : Speaker α) (m : Draw String → Draw α) : Prop :=
  ∀ answer s, m answer s = (g s).answered answer

/-- There is a generator for the draw. -/
def Draw.Voiced {α : Type} (m : Draw String → Draw α) : Prop := ∃ g : Speaker α, g.Voices m

namespace Draw.Voiced

variable {α β : Type}

/-- Draws that are the same for every source of tokens have the same generator. -/
theorem congr {m m' : Draw String → Draw α} (h : ∀ answer, m' answer = m answer) (hm : Voiced m) :
    Voiced m' := by
  rwa [show m' = m from funext h]

/-- What does not ask is drawn at once, in a dialogue without questions. -/
theorem const (m : Draw α) : Voiced fun _ => m := ⟨fun s => .done (m s).1 (m s).2, fun _ _ => rfl⟩

/-- To draw a token is to ask once and to give the answer. -/
theorem asking : Voiced fun answer => answer := ⟨fun s => .ask s .done, fun _ _ => rfl⟩

/-- A sequence has a generator if both of its parts do: the dialogue of the second goes on where
    that of the first has come to its end. -/
theorem bind {m : Draw String → Draw α} {f : α → Draw String → Draw β} (hm : Voiced m)
    (hf : ∀ a, Voiced (f a)) : Voiced fun answer => m answer >>= fun a => f a answer := by
  obtain ⟨g, hg⟩ := hm
  choose k hk using hf
  refine ⟨fun s => (g s).andThen k, fun answer s => ?_⟩
  show (m answer >>= fun a => f a answer) s = ((g s).andThen k).answered answer
  rw [bind_apply, hg]
  -- on the first draw, whose questions come before those of what follows
  induction g s with
  | done result s' =>
    cases result with
    | error e => rfl
    | ok a => exact hk a answer s'
  | ask s' next ih => exact ih _ _

/-- The form into which a value is put asks nothing. -/
theorem map {m : Draw String → Draw α} (hm : Voiced m) (f : α → β) :
    Voiced fun answer => f <$> m answer :=
  congr (fun _ => map_eq_pure_bind f _) (hm.bind fun a => const (pure (f a)))

/-- Nor does reading it as a value of a certain form. -/
theorem as {m : Draw String → Draw Value} (hm : Voiced m) (form : Value → Except GenError α) :
    Voiced fun answer => (m answer).as form :=
  hm.bind fun v => const (ofExcept (form v))

/-- A search asks what its tries ask, one after the other, for as long as they are rejected. -/
theorem retry {m : Draw String → Draw α} (hm : Voiced m) (exhausted : GenError)
    (accept : α → Draw (Option β)) (n : Nat) :
    Voiced fun answer => Draw.retry exhausted accept (m answer) n := by
  induction n with
  | zero => exact const _
  | succ n ih =>
    refine hm.bind fun a => bind (const (accept a)) fun accepted => ?_
    cases accepted with
    | some b => exact const (pure b)
    | none => exact ih

end Draw.Voiced

namespace Node

variable (c : Context)

/-- A choice asks what the chosen child asks. -/
theorem drawNth_voiced {ns : List Node}
    (h : ∀ n ∈ ns, ∀ place, Voiced fun answer => n.draw c answer place) (place : Place)
    (index chosen : Nat) : Voiced fun answer => drawNth c answer place index chosen ns := by
  induction ns generalizing index with
  | nil => exact .const _
  | cons n rest ih =>
    obtain ⟨hn, hrest⟩ := List.forall_mem_cons.mp h
    refine .congr (fun answer => by rw [drawNth]) ?_
    split
    · exact hn (index :: place)
    · exact ih hrest (index + 1)

/-- A tree of texts asks where a token has no style, and nowhere else.  By induction on the trees
    whose declared type is a text's, which are those that may be given for tokens. -/
theorem draw_voiced {n : Node} (h : n.declaredType.satisfies Check.text = true) :
    ∀ place, Voiced fun answer => n.draw c answer place := by
  refine text_induction (P := fun n => ∀ place, Voiced fun answer => n.draw c answer place)
    ?word ?words ?missingValueName ?choice ?unique h
  case word =>
    intro place
    exact .congr (fun answer => by rw [draw]) (.const _)
  case words =>
    intro joiner count place
    exact .congr (fun answer => by rw [draw]) (.const _)
  case missingValueName =>
    intro style place
    -- a token with a style is drawn in that style; without one, this is the question
    cases style with
    | some style => exact .congr (fun answer => by rw [draw]) (.const _)
    | none => exact .congr (fun answer => by rw [draw]) (Voiced.asking.map Value.text)
  case choice =>
    intro ns ih place
    refine .congr (fun answer => by rw [draw]) ?_
    split
    · exact (Voiced.const _).bind fun chosen => drawNth_voiced c ih place 0 chosen
    · exact .const _
  case unique =>
    intro n ih place
    refine .congr (fun answer => by rw [draw, Context.uniqueInRun]) ?_
    exact ((ih (0 :: place)).retry _ _ _).bind fun v => .const _

end Node

/-! ## The slot -/

/-- How tokens are drawn by default. -/
inductive TokenStyle where
  | named (style : MissingStyle)
  | custom (generator : Speaker String)

/-- A run on its way, with the slot that its generator for tokens stands in. -/
structure Session where
  state : State
  /-- Nothing, while a generator is at work. -/
  style : Option TokenStyle

/-- What came of a request, or of a dialogue. -/
structure Reply (α : Type) where
  result : Except GenError α
  after : Session
  /-- The answers to all requests that were made meanwhile, in order. -/
  heard : List (Except GenError String)

/-- The reply to a request that made no others: what was drawn, and the slot as it was. -/
def Reply.direct {α : Type} (drawn : Except GenError α × State) (style : Option TokenStyle) :
    Reply α :=
  ⟨drawn.1, ⟨drawn.2, style⟩, []⟩

/-- Leads a dialogue to its end.  Every question is a request to the run in the state it has come
    to, and may change that and the slot; what was heard on the way is kept in order. -/
def Dialogue.led {α : Type} (request : Session → Option (Reply String)) :
    Dialogue α → Option TokenStyle → Option (Reply α)
  | done result s, style => some (.direct (result, s) style)
  | ask s next, style => do
    let answer ← request ⟨s, style⟩
    let reply ← (next answer.result answer.after.state).led request answer.after.style
    return { reply with heard := answer.heard ++ answer.result :: reply.heard }

namespace Context

/-- Asks the run for a token.  What the slot holds is taken out for that, and put back.  There is no
    reply if requests are made inside of requests more than `depth` deep. -/
def request (c : Context) : (depth : Nat) → Session → Option (Reply String)
  | 0, _ => none
  | _ + 1, ⟨s, none⟩ => some (.direct (c.missingName .spss s) none)
  | _ + 1, ⟨s, some (.named style)⟩ =>
    some (.direct (c.missingName style s) (some (.named style)))
  | depth + 1, ⟨s, some (.custom generator)⟩ => do
    let reply ← (generator s).led (c.request depth) none
    return { reply with after := ⟨reply.after.state, some (.custom generator)⟩ }

variable (c : Context)

/-- The answer is the text of a negative integer, from -1000 on. -/
def IsNegativeToken (answer : Except GenError String) : Prop :=
  ∃ i : Int64, -1000 ≤ i ∧ i ≤ -1 ∧ answer = .ok (toString i)

/-- Such a token takes something from the stream and touches nothing else. -/
theorem missingName_spss (s : State) : ∃ (i : Int64) (stream : Stream), -1000 ≤ i ∧ i ≤ -1 ∧
    c.missingName .spss s = (.ok (toString i), { s with stream }) := by
  obtain ⟨hlow, hhigh⟩ := Sample.int64_mem (show (-1000 : Int64) ≤ -1 by decide) s.stream
  exact ⟨_, _, hlow, hhigh, rfl⟩

/-- A token of this style is such an integer. -/
theorem isNegativeToken_spss (s : State) : IsNegativeToken (c.missingName .spss s).1 := by
  obtain ⟨i, stream, hlow, hhigh, hdrawn⟩ := c.missingName_spss s
  exact ⟨i, hlow, hhigh, congrArg Prod.fst hdrawn⟩

/-- A request that finds the slot empty gets a negative integer, and leaves it empty. -/
theorem request_empty (depth : Nat) (s : State) : ∃ (i : Int64) (stream : Stream),
    -1000 ≤ i ∧ i ≤ -1 ∧
      c.request (depth + 1) ⟨s, none⟩ = some ⟨.ok (toString i), ⟨{ s with stream }, none⟩, []⟩ := by
  obtain ⟨i, stream, hlow, hhigh, hdrawn⟩ := c.missingName_spss s
  refine ⟨i, stream, hlow, hhigh, ?_⟩
  rw [request, hdrawn]
  rfl

/-- While the slot is empty, every question is answered by a negative integer and leaves it empty.
    So a dialogue comes to what it would come to if the draw of such integers answered it.  By
    induction on the dialogue, for any depth that is left. -/
theorem led_request (depth : Nat) {α : Type} (d : Dialogue α) : ∃ heard,
    d.led (c.request (depth + 1)) none
      = some ⟨(d.answered (c.missingName .spss)).1,
          ⟨(d.answered (c.missingName .spss)).2, none⟩, heard⟩ ∧
      ∀ answer ∈ heard, IsNegativeToken answer := by
  induction d with
  | done result s => exact ⟨[], rfl, nofun⟩
  | ask s next ih =>
    -- the answer comes from the empty slot, and what follows goes on from there
    obtain ⟨heard, hled, hheard⟩ := ih (c.missingName .spss s).1 (c.missingName .spss s).2
    refine ⟨(c.missingName .spss s).1 :: heard, ?_,
      List.forall_mem_cons.mpr ⟨c.isNegativeToken_spss s, hheard⟩⟩
    simp only [Dialogue.led, request, Reply.direct, Option.bind_eq_bind, Option.bind_some, hled]
    rfl

/-- A request to a generator is replied to, with what the generator draws if it is answered by negative
    integers; and the generator is back in the slot. -/
theorem request_custom (depth : Nat) (g : Speaker String) (s : State) : ∃ heard,
    c.request (depth + 2) ⟨s, some (.custom g)⟩
      = some ⟨((g s).answered (c.missingName .spss)).1,
          ⟨((g s).answered (c.missingName .spss)).2, some (.custom g)⟩, heard⟩ ∧
      ∀ answer ∈ heard, IsNegativeToken answer := by
  obtain ⟨heard, hled, hheard⟩ := c.led_request depth (g s)
  refine ⟨heard, ?_, hheard⟩
  rw [request, hled]
  rfl

/-- So every request is replied to and leaves the slot as it was. -/
theorem request_restores (depth : Nat) (session : Session) :
    ∃ reply, c.request (depth + 2) session = some reply ∧ reply.after.style = session.style := by
  obtain ⟨s, style⟩ := session
  rcases style with _ | style | g
  · exact ⟨_, rfl, rfl⟩
  · exact ⟨_, rfl, rfl⟩
  · obtain ⟨heard, hreply, -⟩ := c.request_custom depth g s
    exact ⟨_, hreply, rfl⟩

end Context

/-! ## Trees for tokens -/

namespace Run

/-- The tokens of a tree, if those it asks for are drawn by `answer`. -/
def tokens (c : Context) (n : Node) (answer : Draw String) : Draw String :=
  (n.draw c answer customPlace).as Value.toText

section Custom

variable {r : Run} {n : Node} (hstyle : r.missing = .custom n)

include hstyle

/-- What the run says that tokens are by default is what the tree gives if those it asks for are
    negative integers. -/
theorem defaultMissing_eq_tokens :
    r.defaultMissing = tokens r.context n (r.context.missingName .spss) := by
  unfold defaultMissing
  rw [hstyle]
  rfl

/-- A tree for tokens remembers what it has seen at its own places, and disturbs no other. -/
theorem seenAt_defaultMissing (s : State) {place : Place} (h : ¬ customPlace <:+ place) :
    (r.defaultMissing s).2.seenAt place = s.seenAt place := by
  -- its footprint: the ledger, and what lies below its place
  have hconfined : (tokens r.context n (r.context.missingName .spss)).Confined
      ⟨True, fun q => customPlace <:+ q⟩ :=
    (Node.draw_confined (r.context.missingName_confined .spss) n customPlace (fun _ hq => hq)
      (absurd trivial)).as Value.toText
  rw [defaultMissing_eq_tokens hstyle]
  exact (hconfined.keeps s).memory place h

/-- Tokens may be drawn from any tree of texts, also from one that asks for tokens in turn.  There is a
    generator for the tree, and whatever generator for it stands in the slot: every request is replied
    to, with the result that the run says, and leaves the state that the run says, be it a token or an
    error; every request that the generator makes meanwhile is answered by a negative integer from -1000
    on; and then the generator is in its slot again.  Of what is remembered, only the places of the
    tree itself may have changed.  A request made meanwhile takes something from the stream and has no
    other effect. -/
theorem request_reentrant (htext : n.declaredType.satisfies Check.text = true) :
    (∃ g : Speaker String, g.Voices (tokens r.context n)) ∧
    (∀ g : Speaker String, g.Voices (tokens r.context n) → ∀ (depth : Nat) (s : State),
      ∃ heard, r.context.request (depth + 2) ⟨s, some (.custom g)⟩
          = some ⟨(r.defaultMissing s).1, ⟨(r.defaultMissing s).2, some (.custom g)⟩, heard⟩ ∧
        (∀ answer ∈ heard, Context.IsNegativeToken answer) ∧
        ∀ place, ¬ customPlace <:+ place → (r.defaultMissing s).2.seenAt place = s.seenAt place) ∧
    ∀ (depth : Nat) (s : State), ∃ (i : Int64) (stream : Stream), -1000 ≤ i ∧ i ≤ -1 ∧
      r.context.request (depth + 1) ⟨s, none⟩
        = some ⟨.ok (toString i), ⟨{ s with stream }, none⟩, []⟩ := by
  refine ⟨(Node.draw_voiced r.context htext customPlace).as Value.toText, fun g hg depth s => ?_,
    r.context.request_empty⟩
  obtain ⟨heard, hreply, hheard⟩ := r.context.request_custom depth g s
  refine ⟨heard, ?_, hheard, fun place => seenAt_defaultMissing hstyle s⟩
  rw [hreply, defaultMissing_eq_tokens hstyle, hg]

end Custom

/-- Tokens that are new in the run: a word, or what tokens are by default.  The latter is the
    question that the tree puts while it is drawn. -/
def freshToken : Node := .unique (.choice [.word, .missingValueName none])

/-- A run with a single word, in which a search has one attempt. -/
def freshTokenRun : Run :=
  ⟨⟨"en_US", #["word"], Nat.one_pos, 1, 0.5⟩, .custom freshToken⟩

/-- With the single word `word` and one attempt, the token for the first request, from seed 0, is
    `-271`, one that the tree has asked for.  The second request comes from the state that a request
    from seed 5 leaves, in which the word is claimed, and fails; the generator is in its slot again
    after it, too. -/
theorem request_reentrant_freshToken :
    let s := State.ofSeed 0
    let t := (freshTokenRun.defaultMissing (.ofSeed 5)).2
    (freshTokenRun.defaultMissing s).1.toOption = some "-271" ∧
    (freshTokenRun.defaultMissing t).1.toOption = none ∧
    ∃ g : Speaker String, g.Voices (tokens freshTokenRun.context freshToken) ∧
      (∃ heard, freshTokenRun.context.request 2 ⟨s, some (.custom g)⟩
        = some ⟨(freshTokenRun.defaultMissing s).1,
            ⟨(freshTokenRun.defaultMissing s).2, some (.custom g)⟩, heard⟩ ∧
        ∀ answer ∈ heard, Context.IsNegativeToken answer) ∧
      ∃ heard, freshTokenRun.context.request 2 ⟨t, some (.custom g)⟩
        = some ⟨(freshTokenRun.defaultMissing t).1,
            ⟨(freshTokenRun.defaultMissing t).2, some (.custom g)⟩, heard⟩ ∧
        ∀ answer ∈ heard, Context.IsNegativeToken answer := by
  intro s t
  have htext : freshToken.declaredType.satisfies Check.text = true := by decide
  have hstyle : freshTokenRun.missing = .custom freshToken := rfl
  obtain ⟨⟨g, hg⟩, hall, -⟩ := request_reentrant hstyle htext
  obtain ⟨heard, hreply, hheard, -⟩ := hall g hg 0 s
  obtain ⟨heard', hreply', hheard', -⟩ := hall g hg 0 t
  exact ⟨by decide +kernel, by decide +kernel, g, hg, ⟨heard, hreply, hheard⟩, heard', hreply',
    hheard'⟩

end Run

end SyntheticTables
