import KeyFlow.Logging.Directive

/-!
Filters choose the log records to show by the target that logs them. The most specific directive
that fits a record counts, and a record that no directive fits is not shown.
-/

namespace KeyFlow

structure Filter where
  directives : List Directive
  deriving DecidableEq, Repr

namespace Filter

/-- The parts of a text between commas. -/
def pieces : List Char → List (List Char)
  | [] => [[]]
  | ',' :: cs => [] :: pieces cs
  | c :: cs =>
    match pieces cs with
    | [] => [[c]]
    | p :: ps => (c :: p) :: ps

/-- Reads directives between commas; the first one that cannot be read spoils the filter. -/
def parse (s : String) : Except Directive.Refusal Filter :=
  (((pieces s.toList).filter (!·.isEmpty)).mapM Directive.read).map Filter.mk

/-- The filter that the environment names, if it can be read. -/
def fromEnvironment (fallback : Filter) (environment : Option String) : Except Fault Filter :=
  match environment.map parse with
  | some (.ok f) => .ok f
  | some (.error (.fault f)) => .error f
  | some (.error .unreadable) | none => .ok fallback

/-- Shows warnings, and what a program's own targets inform of. -/
def standard (own : String) : Filter :=
  ⟨[{ target := none, limit := some .warn }, { target := some own, limit := some .info }]⟩

/-- The most detailed level shown for records with such a target and such fields: the most specific
directive counts, of equals the last. -/
def limitFor (f : Filter) (target : String) (fields : List String) : Option Level :=
  let best := (f.directives.filter (·.fits target fields)).foldl
    (fun best d =>
      match best with
      | none => some d
      | some b => if d.overrides b then some d else some b) none
  best.bind (·.limit)

/-- A record that holds a text alone has this field. -/
def textFields : List String := ["message"]

/-- The levels at which a text is shown. -/
def shown (f : Filter) (target : String) : List Level :=
  match f.limitFor target textFields with
  | none => []
  | some limit => Level.all.filter limit.shows

end Filter

end KeyFlow
