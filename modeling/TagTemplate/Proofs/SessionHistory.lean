import Mathlib.Data.List.Induction
import TagTemplate.Session

/-!
An engine against the requests it has answered. A template is compiled when it is added and kept in
that form; here it is shown that nothing of this can be seen. What an engine has in force can be
read off the requests so far: the globals and the evaluator that were set last, and under each name
the source of the last addition that compiled and has that name as its key. A render is the same as
if that source were compiled at that moment, and a request that fails changes nothing.
-/
namespace TagTemplate

def RenderFunction.ofSource (o : Options) (source : String) : Except Error RenderFunction :=
  (compile o source).map fun compiled => ofTemplate o compiled.template

namespace Engine

variable {o : Options} {e : Engine} {α : Type}

namespace Request

def globals? : Request → Option Value
  | .globals value => (convert (Datum.ofValue value)).toOption
  | .globalsAsIs value => some value
  | _ => none

def evaluator? : Request → Option Evaluator
  | .evaluator given => some given
  | _ => none

/-- The source that a request stores under a key: that of an addition that compiles, if the key is
    the name the template declares or, where it declares none, the name that is given. -/
def source? (o : Options) (key : String) : Request → Option String
  | .add given source =>
    match TagTemplate.compile o source with
    | .ok compiled => if compiled.template.name.getD given = key then some source else none
    | .error _ => none
  | _ => none

end Request

def latest (told : Request → Option α) (history : List Request) : Option α :=
  (history.filterMap told).getLast?

theorem latest_concat (told : Request → Option α) (history : List Request) (request : Request) :
    latest told (history ++ [request]) = (told request).or (latest told history) := by
  unfold latest
  cases said : told request with
  | none => simp [said]
  | some a => simp [said]

def fresh (o : Options) : Engine := { options := o }

def after (o : Options) (history : List Request) : Engine := ((fresh o).answerAll history).1

def inForce (o : Options) (history : List Request) : Engine where
  options := o
  evaluator := (latest Request.evaluator? history).getD Evaluator.standard
  globals := (latest Request.globals? history).getD .null

theorem answer_all_append (e : Engine) (before behind : List Request) :
    e.answerAll (before ++ behind) =
      let (next, responses) := e.answerAll before
      let (last, more) := next.answerAll behind
      (last, responses ++ more) := by
  induction before generalizing e with
  | nil => rfl
  | cons request rest ih => simp only [List.cons_append, answerAll, ih]

theorem after_concat (o : Options) (history : List Request) (request : Request) :
    after o (history ++ [request]) = ((after o history).answer request).1 := by
  unfold after
  rw [answer_all_append]
  rfl

theorem answer_all_length (e : Engine) (requests : List Request) :
    (e.answerAll requests).2.length = requests.length := by
  induction requests generalizing e with
  | nil => rfl
  | cons request rest ih => simp only [answerAll, List.length_cons, ih]

theorem answer_at (o : Options) (history behind : List Request) (request : Request) :
    ((fresh o).answerAll (history ++ request :: behind)).2[history.length]? =
      some ((after o history).answer request).2 := by
  have length := answer_all_length (fresh o) history
  rw [answer_all_append]
  simp only [answerAll]
  rw [List.getElem?_append_right (Nat.le_of_eq length), length, Nat.sub_self]
  rfl

theorem compile_of_options {f : Engine} (same : e.options = f.options) : e.compile = f.compile := by
  unfold compile
  rw [same]

theorem compile_of_ok {compiled : Compiled} {source : String}
    (ok : TagTemplate.compile e.options source = .ok compiled) :
    e.compile source = .ok compiled.template := by
  rw [compile, ok]
  rfl

theorem compile_of_error {error : Error} {source : String}
    (failed : TagTemplate.compile e.options source = .error error) :
    e.compile source = .error error := by
  rw [compile, failed]
  rfl

theorem answer_add_of_ok {compiled : Compiled} {source : String}
    (ok : TagTemplate.compile e.options source = .ok compiled) (given : String) :
    let key := compiled.template.name.getD given
    e.answer (.add given source) =
      ({ e with templates := e.templates.insert key compiled.template }, .text key) := by
  simp only [answer, addTemplate, compile_of_ok ok]
  rfl

theorem answer_add_of_error {error : Error} {source : String}
    (failed : TagTemplate.compile e.options source = .error error) (given : String) :
    e.answer (.add given source) = (e, .error error) := by
  simp only [answer, addTemplate, compile_of_error failed]
  rfl

structure Steps (e : Engine) (request : Request) (next : Engine) : Prop where
  options : next.options = e.options
  evaluator : next.evaluator = request.evaluator?.getD e.evaluator
  globals : next.globals = request.globals?.getD e.globals
  templates : ∀ key, next.template? key =
    match request.source? e.options key with
    | some source => (e.compile source).toOption
    | none => e.template? key

theorem steps_add (e : Engine) (given source : String) :
    Steps e (.add given source) (e.answer (.add given source)).1 := by
  cases result : TagTemplate.compile e.options source with
  | error error =>
    rw [answer_add_of_error result]
    constructor
    case options | evaluator | globals => rfl
    case templates =>
      intro key
      simp only [Request.source?, result]
  | ok compiled =>
    rw [answer_add_of_ok result]
    constructor
    case options | evaluator | globals => rfl
    case templates =>
      intro key
      show (Keyed.insert _ _ e.templates).get? key = _
      rw [Keyed.get_insert]
      simp only [Request.source?, result]
      by_cases named : compiled.template.name.getD given = key
      · simp only [if_pos named.symm, if_pos named, compile_of_ok result]
        rfl
      · simp only [if_neg (Ne.symm named), if_neg named]
        rfl

theorem steps_globals (e : Engine) (value : Value) :
    Steps e (.globals value) (e.answer (.globals value)).1 := by
  cases result : convert (Datum.ofValue value) with
  | error error =>
    have same : (e.answer (.globals value)).1 = e := by
      simp only [answer, setGlobals, result]
      rfl
    rw [same]
    constructor
    case options | evaluator | templates => intros; rfl
    case globals =>
      simp only [Request.globals?, result]
      rfl
  | ok globals =>
    have set : (e.answer (.globals value)).1 = { e with globals } := by
      simp only [answer, setGlobals, result]
      rfl
    rw [set]
    constructor
    case options | evaluator | templates => intros; rfl
    case globals =>
      simp only [Request.globals?, result]
      rfl

theorem steps_of_same {request : Request} (same : (e.answer request).1 = e)
    (noGlobals : request.globals? = none) (noEvaluator : request.evaluator? = none)
    (noSource : ∀ key, request.source? e.options key = none) :
    Steps e request (e.answer request).1 := by
  rw [same]
  constructor
  case options => rfl
  case evaluator => rw [noEvaluator, Option.getD_none]
  case globals => rw [noGlobals, Option.getD_none]
  case templates =>
    intro key
    rw [noSource]

theorem steps_answer (e : Engine) (request : Request) : Steps e request (e.answer request).1 := by
  cases request with
  | add given source => exact steps_add e given source
  | globals value => exact steps_globals e value
  | globalsAsIs value | evaluator given =>
    constructor
    case options | evaluator | globals | templates => intros; rfl
  | render name context | inspect => exact steps_of_same rfl rfl rfl fun _ => rfl
  | renderStored name context | get name | getInspected name =>
    refine steps_of_same ?_ rfl rfl fun _ => rfl
    simp only [answer]
    cases e.template? name <;> rfl
  | compile source context =>
    refine steps_of_same ?_ rfl rfl fun _ => rfl
    simp only [answer]
    cases e.compile source <;> rfl

/-- The state of an engine that has answered the requests of a history. -/
structure Reflects (o : Options) (history : List Request) (e : Engine) : Prop where
  options : e.options = o
  evaluator : e.evaluator = (inForce o history).evaluator
  globals : e.globals = (inForce o history).globals
  templates : ∀ key, e.template? key =
    (latest (Request.source? o key) history).bind fun source =>
      ((fresh o).compile source).toOption

theorem reflects_concat {history : List Request} {request : Request} {next : Engine}
    (reflects : Reflects o history e) (steps : Steps e request next) :
    Reflects o (history ++ [request]) next := by
  constructor
  case options => rw [steps.options, reflects.options]
  case evaluator => simp only [steps.evaluator, reflects.evaluator, inForce, latest_concat,
    Option.getD_or]
  case globals => simp only [steps.globals, reflects.globals, inForce, latest_concat,
    Option.getD_or]
  case templates =>
    intro key
    have compiles : e.compile = (fresh o).compile := compile_of_options reflects.options
    rw [steps.templates, reflects.templates, reflects.options, latest_concat]
    cases Request.source? o key request with
    | none => rfl
    | some source => simp only [Option.some_or, Option.bind_some, compiles]

theorem reflects_after (o : Options) (history : List Request) :
    Reflects o history (after o history) := by
  induction history using List.reverseRecOn with
  | nil => exact ⟨rfl, rfl, rfl, fun _ => rfl⟩
  | append_singleton history request ih =>
    rw [after_concat]
    exact reflects_concat ih (steps_answer _ request)

def lastSource? (o : Options) (name : String) (history : List Request) : Option String :=
  latest (Request.source? o name) history

theorem compiles_of_last_source {name source : String} {history : List Request}
    (last : lastSource? o name history = some source) : ∃ t, (fresh o).compile source = .ok t := by
  obtain ⟨request, -, told⟩ := List.mem_filterMap.mp (List.mem_of_getLast? last)
  cases request with
  | add given text =>
    simp only [Request.source?] at told
    split at told
    · rename_i compiled ok
      obtain ⟨-, told⟩ := Option.ite_none_right_eq_some.mp told
      obtain rfl := Option.some.inj told
      exact ⟨compiled.template, compile_of_ok ok⟩
    · cases told
  | _ => cases told

theorem template_of_last_source {name source : String} {history : List Request}
    (last : lastSource? o name history = some source) :
    ∃ t, (fresh o).compile source = .ok t ∧ (after o history).template? name = some t := by
  obtain ⟨t, ok⟩ := compiles_of_last_source last
  refine ⟨t, ok, ?_⟩
  rw [(reflects_after o history).templates]
  show (lastSource? o name history).bind _ = _
  rw [last, Option.bind_some, ok]
  rfl

theorem no_template_of_no_source {name : String} {history : List Request}
    (none : lastSource? o name history = none) : (after o history).template? name = .none := by
  rw [(reflects_after o history).templates]
  show (lastSource? o name history).bind _ = _
  rw [none, Option.bind_none]

theorem function_of_source {source : String} {t : Template}
    (compiles : (fresh o).compile source = .ok t) :
    RenderFunction.ofSource o source = .ok (.ofTemplate o t) := by
  rw [RenderFunction.ofSource]
  cases result : TagTemplate.compile o source with
  | error error =>
    have failed : (fresh o).compile source = .error error := compile_of_error result
    rw [failed] at compiles
    cases compiles
  | ok compiled =>
    have kept : (fresh o).compile source = .ok compiled.template := compile_of_ok result
    rw [kept] at compiles
    cases compiles
    rfl

/-- What an engine makes of a template depends on what it has in force only. -/
theorem program_of_reflects {history : List Request} (reflects : Reflects o history e) :
    e.program = (inForce o history).program := by
  funext t context
  unfold program layered
  rw [reflects.options, reflects.evaluator, reflects.globals]
  rfl

theorem same_of_failed {request : Request} {error : Error}
    (failed : (e.answer request).2 = .error error) : (e.answer request).1 = e := by
  cases request with
  | add given source =>
    cases result : TagTemplate.compile e.options source with
    | error error => rw [answer_add_of_error result]
    | ok compiled =>
      rw [answer_add_of_ok result] at failed
      cases failed
  | globals value =>
    simp only [answer] at failed ⊢
    cases result : e.setGlobals (Datum.ofValue value) with
    | error error => rfl
    | ok next =>
      rw [result] at failed
      cases failed
  | globalsAsIs value | evaluator given => cases failed
  | render name context | inspect => rfl
  | renderStored name context | get name | getInspected name =>
    simp only [answer]
    cases e.template? name <;> rfl
  | compile source context =>
    simp only [answer]
    cases e.compile source <;> rfl

/-- Whatever an engine has answered, it renders a name as the source last stored under the name
    renders if it is compiled now, with the globals and the evaluator in force, and knows no other
    name; the function it gives for the template is that of the source alone; and a request that
    fails leaves it as it was. -/
theorem renders_as_recompiled (o : Options) (history : List Request) :
    let e := after o history
    let now := inForce o history
    (∀ request later, ((fresh o).answerAll (history ++ request :: later)).2[history.length]? =
      some (e.answer request).2) ∧
    (∀ name data, e.render name data =
      match lastSource? o name history with
      | some source => do now.renderTemplate (← now.compile source) (← convert data)
      | none => .error ⟨.noTemplate name, none⟩) ∧
    (∀ name,
      match lastSource? o name history with
      | some source => ∃ t, now.compile source = .ok t ∧ e.template? name = some t ∧
        RenderFunction.ofSource o source = .ok (e.functionOf t) ∧
        ∀ context, e.renderTemplate t context = now.renderTemplate t context ∧
          ∀ w, e.renderTemplateTo t context w = now.renderTemplateTo t context w
      | none => e.template? name = none) ∧
    (∀ given source, (e.answer (.add given source)).2 =
      match TagTemplate.compile o source with
      | .ok compiled => .text (compiled.template.name.getD given)
      | .error error => .error error) ∧
    (∀ source context, (e.answer (.compile source context)).2 =
      .ofOutput (do now.renderTemplate (← now.compile source) context)) ∧
    (∀ request error, (e.answer request).2 = .error error → (e.answer request).1 = e) := by
  intro e now
  have reflects : Reflects o history e := reflects_after o history
  have programs : e.program = now.program := program_of_reflects reflects
  have renders (t : Template) (context : Value) :
      e.renderTemplate t context = now.renderTemplate t context := by
    rw [renderTemplate, renderTemplate, programs]
  have writes (t : Template) (context : Value) (w : Writer) :
      e.renderTemplateTo t context w = now.renderTemplateTo t context w := by
    rw [renderTemplateTo, renderTemplateTo, programs]
  refine ⟨fun request later => answer_at o history later request, ?_, ?_, ?_, ?_,
    fun request error => same_of_failed⟩
  · intro name data
    cases last : lastSource? o name history with
    | none => simp only [render, no_template_of_no_source last, e]
    | some source =>
      obtain ⟨t, compiles, stored⟩ := template_of_last_source last
      have compiles : now.compile source = .ok t := compiles
      simp only [render, stored, e, compiles]
      exact congrArg _ (funext fun context => renders t context)
  · intro name
    cases last : lastSource? o name history with
    | none => exact no_template_of_no_source last
    | some source =>
      obtain ⟨t, compiles, stored⟩ := template_of_last_source last
      refine ⟨t, compiles, stored, ?_, fun context => ⟨renders t context, writes t context⟩⟩
      rw [functionOf, reflects.options]
      exact function_of_source compiles
  · intro given source
    cases result : TagTemplate.compile o source with
    | error error => rw [answer_add_of_error (by rw [reflects.options, result])]
    | ok compiled => rw [answer_add_of_ok (by rw [reflects.options, result])]
  · intro source context
    have compiles : e.compile = now.compile := compile_of_options reflects.options
    simp only [answer, compiles]
    cases now.compile source with
    | error error => rfl
    | ok t => exact congrArg Response.ofOutput (renders t context)

theorem declared_name_and_failed_addition_recompiled :
    let history : List Request := [.add "main" "a",
      .add "page" "<%# Template Name: main %>b<%= x %>", .add "main" "<%= x",
      .globalsAsIs (.map [("x", .string "c")])]
    let e := after .standard history
    let failing : Request := .add "main" "<%= x"
    lastSource? .standard "main" history = some "<%# Template Name: main %>b<%= x %>" ∧
    lastSource? .standard "page" history = none ∧
    e.render "main" .unit = .ok "bc" ∧
    ∃ error, (e.answer failing).2 = .error error ∧ (e.answer failing).1 = e := by
  intro history e failing
  obtain ⟨-, renders, -, adds, -, unchanged⟩ := renders_as_recompiled .standard history
  have unclosed : TagTemplate.compile .standard "<%= x" =
      .error ⟨.unclosed "<%=" "<%= x" ⟨0, 3⟩, none⟩ := by decide
  have failed := adds "main" "<%= x"
  rw [unclosed] at failed
  exact ⟨by decide, by decide, (renders "main" .unit).trans (by decide), _, failed,
    unchanged failing _ failed⟩

end Engine

end TagTemplate
