import WifiSniffer.Effect.Rules

/-!
# Protocols for programs over calls

A protocol has stages, and says of each stage which calls may be made in it and to which
stage they lead.  A program keeps to it if all its calls are allowed, whatever the
responses are.  Where programs run one call at a time, with other things happening in
between, the stage says what has been done so far.
-/

namespace WifiSniffer.Effect

namespace Program

variable {call : Type} {response : call → Type} {α β stage : Type}
  {leads : stage → call → Option stage}

/-- From a stage on, the calls of a program are allowed, and the last stage is as
stated. -/
def Follows (leads : stage → call → Option stage) (post : stage → Prop) :
    stage → Program call response α → Prop
  | here, .pure _ => post here
  | here, .request question next =>
      ∃ after, leads here question = some after ∧
        ∀ answer, Follows leads post after (next answer)

theorem follows_ask {here after : stage} {question : call}
    (allowed : leads here question = some after) :
    Follows leads (fun last => last = after) here
      (ask question : Program call response (response question)) :=
  ⟨after, allowed, fun _ => rfl⟩

theorem Follows.bind {middle post : stage → Prop} {here : stage}
    {program : Program call response α} {next : α → Program call response β}
    (first : Follows leads middle here program)
    (second : ∀ value after, middle after → Follows leads post after (next value)) :
    Follows leads post here (program >>= next) := by
  change Follows leads post here (program.bind next)
  induction program generalizing here with
  | pure value => exact second value here first
  | request question rest ih =>
      rcases first with ⟨after, allowed, follows⟩
      exact ⟨after, allowed, fun answer => ih answer (follows answer)⟩

/-- Calls that lead nowhere keep a program in its stage. -/
theorem Calls.follows {here : stage} {program : Program call response α}
    (calls : Calls (fun question => leads here question = some here) program) :
    Follows leads (fun last => last = here) here program := by
  induction program with
  | pure value => exact rfl
  | request question rest ih => exact ⟨here, calls.1, fun answer => ih answer (calls.2 answer)⟩

theorem Follows.mono {post weaker : stage → Prop} {here : stage}
    {program : Program call response α} (follows : Follows leads post here program)
    (imp : ∀ last, post last → weaker last) : Follows leads weaker here program := by
  induction program generalizing here with
  | pure value => exact imp here follows
  | request question rest ih =>
      rcases follows with ⟨after, allowed, later⟩
      exact ⟨after, allowed, fun answer => ih answer (later answer)⟩

/-- A first part that stays in its stage. -/
theorem Calls.follows_bind {post : stage → Prop} {here : stage}
    {program : Program call response α} {next : α → Program call response β}
    (calls : Calls (fun question => leads here question = some here) program)
    (second : ∀ value, Follows leads post here (next value)) :
    Follows leads post here (program >>= next) := by
  refine calls.follows.bind ?_
  rintro value after rfl
  exact second value

end Program

end WifiSniffer.Effect
