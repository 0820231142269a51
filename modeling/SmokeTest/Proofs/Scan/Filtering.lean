/-
What a filter takes from the plan of a text.

* `Plan.narrow f` — the plan with the probes that the filter lets pass;
* `Filter.parse_opposite` — two signs that are opposite make filters that are opposite;
* `Splits` — a list is split into two others, item by item;
* `Plan.filtered_ofLines` — with a filter a text has the plan that it has without one, narrowed, and
  two opposite filters split the probes.

Design notes: the filter is asked about the number of a line and its command without the blanks
around it, and these are the id and the command of the probe that the line adds. So asking before
the probe is made and asking afterwards come to the same.
-/
import Mathlib.Data.List.Perm.Basic
import Mathlib.Logic.Basic
import SmokeTest.Proofs.Scan.Comparison

namespace SmokeTest

/-! ### Opposite filters -/

namespace Filter

/-- How a sign is written. -/
def Sign.text : Sign → String
  | found => "=="
  | notFound => "=!"
  | contains => "~="
  | lacks => "~!"

/-- The sign that asks for the contrary. -/
def Sign.opposite : Sign → Sign
  | found => notFound
  | notFound => found
  | contains => lacks
  | lacks => contains

theorem sign?_text (sign : Sign) (body : String) :
    sign? (sign.text ++ body).toList = some (sign, body.toList) := by
  rw [String.toList_append]
  cases sign <;> rfl

/-- The filter that a text makes after a sign that means it as it stands. -/
def ofSign (sign : Sign) (body : String) : Option Filter :=
  match sign with
  | .contains => some (.contains body)
  | .lacks => some (.lacks body)
  | .found => (Regex.ofPattern? body.toList).map .found
  | .notFound => (Regex.ofPattern? body.toList).map .notFound

/-- A text behind a sign makes a filter if it is not empty and, for the signs that ask for it, a
pattern. -/
theorem parse_sign_eq_ok_iff {sign : Sign} {body : String} {f : Filter} :
    parse (sign.text ++ body) = .ok f ↔ body ≠ "" ∧ ofSign sign body = some f := by
  have some_text : (sign.text ++ body).toList.isEmpty = false := by
    rw [String.toList_append]
    cases sign <;> rfl
  have empty : body.toList.isEmpty = true ↔ body = "" := by
    rw [List.isEmpty_iff, String.toList_eq_nil_iff]
  rw [parse]
  simp only [some_text, sign?_text, Bool.false_eq_true, if_false, empty, String.ofList_toList]
  by_cases none : body = ""
  · simp [none]
  · rw [if_neg none]
    cases sign with
    | contains | lacks => simp [ofSign, none]
    | found | notFound =>
      simp only [ofSign]
      cases Regex.ofPattern? body.toList <;> simp [none]

/-- The same text makes a filter after opposite signs, and one of the two filters lets pass what the
other one does not. -/
theorem parse_opposite {sign : Sign} {body : String} {f : Filter}
    (parsed : parse (sign.text ++ body) = .ok f) :
    ∃ g, parse (sign.opposite.text ++ body) = .ok g ∧
      ∀ id command, g.accepts id command = !f.accepts id command := by
  obtain ⟨some_text, made⟩ := parse_sign_eq_ok_iff.mp parsed
  cases sign with
  | contains =>
    cases made
    exact ⟨.lacks body, parse_sign_eq_ok_iff.mpr ⟨some_text, rfl⟩, fun _ _ => rfl⟩
  | lacks =>
    cases made
    exact ⟨.contains body, parse_sign_eq_ok_iff.mpr ⟨some_text, rfl⟩,
      fun _ _ => (Bool.not_not _).symm⟩
  | found =>
    obtain ⟨r, pattern, rfl⟩ := Option.map_eq_some_iff.mp made
    refine ⟨.notFound r, parse_sign_eq_ok_iff.mpr ⟨some_text, ?_⟩, fun _ _ => rfl⟩
    rw [Sign.opposite, ofSign, pattern, Option.map_some]
  | notFound =>
    obtain ⟨r, pattern, rfl⟩ := Option.map_eq_some_iff.mp made
    refine ⟨.found r, parse_sign_eq_ok_iff.mpr ⟨some_text, ?_⟩,
      fun _ _ => (Bool.not_not _).symm⟩
    rw [Sign.opposite, ofSign, pattern, Option.map_some]

end Filter

/-! ### Splitting a list -/

/-- The list is split into two parts: both keep its order, each item is in exactly one of them, and
together they have every item as often as the list. -/
structure Splits {α : Type} (whole part others : List α) : Prop where
  part_sublist : part.Sublist whole
  others_sublist : others.Sublist whole
  apart : ∀ a ∈ whole, Xor (a ∈ part) (a ∈ others)
  perm : (part ++ others).Perm whole

theorem splits_filter {α : Type} {p q : α → Bool} (contrary : ∀ a, q a = !p a) (whole : List α) :
    Splits whole (whole.filter p) (whole.filter q) := by
  obtain rfl : q = fun a => !p a := funext contrary
  refine ⟨List.filter_sublist, List.filter_sublist, fun a mem => ?_,
    List.filter_append_perm p whole⟩
  cases kept : p a <;> simp [Xor, mem, kept]

/-! ### Sources -/

/-- The probes that the filter lets pass. -/
def Filter.passing (f : Filter) (probes : List Probe) : List Probe :=
  probes.filter fun p => f.accepts p.id p.command

/-- The plan with the probes that the filter lets pass. -/
def Plan.narrow (f : Filter) (plan : Plan) : Plan :=
  { plan with probes := f.passing plan.probes }

/-- The probe that a line adds is let pass exactly if the filter accepts its number and its
command. -/
theorem Filter.passing_concat (f : Filter) (o : Options) (probes : List Probe) (line : Line)
    (value : Option String) :
    f.passing (probes ++ [line.probe o value]) = f.passing probes ++
      if f.accepts (Text.decimal line.number) line.command then [line.probe o value] else [] := by
  rw [passing, passing, List.filter_append, List.filter_singleton, Bool.cond_eq_ite]
  rfl

/-- A command that is added under a filter is added without one and then let pass. -/
theorem Scan.add_filtered (o : Options) (f : Filter) (s : Scan) (line : Line) :
    (s.onProbes f.passing).add { o with filter := some f } line =
      (s.add { o with filter := none } line).map (onProbes f.passing) := by
  have asked : Options.accepts { o with filter := some f } (Text.decimal line.number)
      line.command = f.accepts (Text.decimal line.number) line.command := rfl
  rw [add_eq, add_unfiltered rfl, asked]
  cases line.command.isEmpty with
  | true => rfl
  | false =>
    -- what the filter is asked about are the id and the command of the probe
    have last := f.passing_concat { o with filter := none } s.probes line s.value
    cases kept : f.accepts (Text.decimal line.number) line.command with
    | true =>
      rw [kept, if_pos rfl] at last
      exact congrArg (fun probes => Except.ok { s with probes }) last.symm
    | false =>
      rw [kept, if_neg Bool.false_ne_true, List.append_nil] at last
      exact congrArg (fun probes => Except.ok { s with probes }) last.symm

namespace Plan

theorem tag_ofLines {o : Options} {lines : List Line} {plan : Plan}
    (scanned : ofLines o lines = .ok plan) : plan.context.tag = o.tag := by
  rw [ofLines] at scanned
  split at scanned <;> cases scanned
  rfl

theorem ofLines_filtered (o : Options) (f : Filter) (lines : List Line) :
    ofLines { o with filter := some f } lines =
      (ofLines { o with filter := none } lines).map (narrow f) := by
  rw [ofLines_onProbes { o with filter := none } { o with filter := some f } f.passing
    (sameTag_refl o.tag) rfl rfl rfl (Scan.add_filtered o f) lines]
  cases scanned : ofLines { o with filter := none } lines with
  | error fault => rfl
  | ok plan =>
    have tag : plan.context.tag = o.tag := tag_ofLines (o := { o with filter := none }) scanned
    simp only [Except.map, narrow, ← tag]

/-- **A filter only takes probes from the plan of a text.** With a filter the scan fails exactly if
it fails without one, and then for the same reason; otherwise the plan has the same context and, in
order and unchanged, the probes whose id and command the filter accepts. Two filters that are
written with opposite signs before the same text split the probes between them. -/
theorem filtered_ofLines (o : Options) (lines : List Line) :
    (∀ f, ofLines { o with filter := some f } lines =
      match ofLines { o with filter := none } lines with
      | .error fault => .error fault
      | .ok plan =>
        .ok { plan with probes := plan.probes.filter fun p => f.accepts p.id p.command }) ∧
    ∀ (sign : Filter.Sign) (body : String) (f : Filter),
      Filter.parse (sign.text ++ body) = .ok f →
        ∃ g, Filter.parse (sign.opposite.text ++ body) = .ok g ∧
          ∀ plan, ofLines { o with filter := none } lines = .ok plan →
            ∃ with_f with_g, ofLines { o with filter := some f } lines = .ok with_f ∧
              ofLines { o with filter := some g } lines = .ok with_g ∧
              Splits plan.probes with_f.probes with_g.probes := by
  constructor
  · intro f
    rw [ofLines_filtered]
    cases ofLines { o with filter := none } lines <;> rfl
  · intro sign body f parsed
    obtain ⟨g, parsed', contrary⟩ := Filter.parse_opposite parsed
    refine ⟨g, parsed', fun plan scanned => ⟨plan.narrow f, plan.narrow g, ?_, ?_, ?_⟩⟩
    · rw [ofLines_filtered, scanned]
      rfl
    · rw [ofLines_filtered, scanned]
      rfl
    · exact splits_filter (fun p => contrary p.id p.command) plan.probes

/-- A text with a setting, a value, and commands of which one is about administration. -/
def officeText : String :=
  "#@thread_pool_size@2\n#:+: ./user.sh\n#=dev=7\n#:dev: ./admin.sh \n#:prod: ./admin.sh\n"

/-- The plan of `officeText` for the tag `dev` with some of its probes. -/
def officePlan (probes : List Probe) : Plan where
  context := { tag := "dev", poolSize := 2, timeoutSeconds := 600, value := some "7" }
  probes := probes

/-- The first command of `officeText`. -/
def userProbe : Probe where
  id := "2"
  command := "./user.sh"
  overrides := .ofList [("ST_LINE", "2"), ("ST_OS", "unix"), ("ST_TAG", "dev")]

/-- The second command of `officeText`. -/
def adminProbe : Probe where
  id := "4"
  command := "./admin.sh"
  overrides := .ofList [("ST_LINE", "4"), ("ST_OS", "unix"), ("ST_TAG", "dev"), ("ST_VALUE", "7")]

theorem filtered_ofLines_officeText :
    Filter.parse "~=admin" = .ok (.contains "admin") ∧
      ofLines { tag := .dev } (Line.ofText officeText) =
        .ok (officePlan [userProbe, adminProbe]) ∧
      ofLines { tag := .dev, filter := some (.contains "admin") } (Line.ofText officeText) =
        .ok (officePlan [adminProbe]) ∧
      ∃ g, Filter.parse "~!admin" = .ok g ∧ ∃ with_f with_g,
        ofLines { tag := .dev, filter := some (.contains "admin") } (Line.ofText officeText) =
          .ok with_f ∧
        ofLines { tag := .dev, filter := some g } (Line.ofText officeText) = .ok with_g ∧
        Splits [userProbe, adminProbe] with_f.probes with_g.probes := by
  have parsed : Filter.parse "~=admin" = .ok (.contains "admin") := rfl
  have scanned : ofLines { tag := .dev } (Line.ofText officeText) =
      .ok (officePlan [userProbe, adminProbe]) := rfl
  have filtered : ofLines { tag := .dev, filter := some (.contains "admin") }
      (Line.ofText officeText) = .ok (officePlan [adminProbe]) := rfl
  obtain ⟨g, parsed', split⟩ := (filtered_ofLines { tag := .dev } (Line.ofText officeText)).2
    .contains "admin" _ parsed
  exact ⟨parsed, scanned, filtered, g, parsed', split _ scanned⟩

end Plan

end SmokeTest
