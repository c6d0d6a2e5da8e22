import Reckoner.Proofs.Overflow
import Reckoner.Proofs.Terminal.Drawing
import Reckoner.Proofs.Terminal.Printing
import Reckoner.Terminal.Program

/-!
# Terminal — all doors agree

A text can be finished, answered, shown while it is typed or traced, and three commands put these on a terminal.  What they say of one text belongs together (`Calculator.Agree`), and either all of them answer or none does: `doors_agree`.  The exit code of a command says whether there is a mistake.

Three things can keep a command from its report though its text has no mistake.  A program whose settings name no level of the log does not start; a record cannot be written if the encoding does not hold the expression; and a console may draw a table in characters the encoding does not hold (`fails_without_mistake` shows the first two).  The tables of a text with a mistake may also hold a tag that cannot be drawn, but then the exit code says so by itself.
-/

namespace Reckoner

open Decimal (Signal)
open Evaluation (map_eq_ok_iff bind_eq_ok_iff ok_bind map_ok)

/-! ### One text -/

namespace Calculator

/-- What is said of one text belongs together: its outcome, its trace, its preview and its answer. -/
structure Agree (c : Calculator) (text : String) (o : Outcome) (t : Trace) : Prop where
  kind : o.errorKind? = t.errorKind?
  preview : c.preview text = .ok t.display
  answer : c.answer text = .ok (o.display, o.isError)
  shown : o.errorKind? = none → o.display = t.display
  hidden : o.errorKind? ≠ none → t.display = ""
  zero : o.errorKind? = some .divisionByZero → o.display = c.settings.divisionByZeroLabel
  malformed : ∀ k, o.errorKind? = some k → k ≠ .divisionByZero → o.display = c.settings.malformedLabel
  value : t.value? = none ↔ t.errorKind? ≠ none
  message : t.errorMessage? ≠ none ↔ t.errorKind? ≠ none
  unread : t.errorKind? = some .invalidCharacter → t.tokens = []
  read : t.errorKind? ≠ some .invalidCharacter → Token.scan text = .ok t.tokens
  unordered : t.errorKind? = some .invalidCharacter ∨ t.errorKind? = some .mismatchedParentheses →
    t.rpn = []
  ordered : t.errorKind? ≠ some .invalidCharacter → t.errorKind? ≠ some .mismatchedParentheses →
    Token.toPostfix t.tokens = .ok t.rpn

variable {c : Calculator} {text : String} {m : Mistake} {s : Signal} {o : Outcome} {t : Trace}

/-- What is shown while a text is typed that computes so. -/
def glimpsed : Except Failure String → Except Signal String
  | .ok display => .ok display
  | .error (.mistake _) => .ok ""
  | .error (.signal s) => .error s

/-- Blanks alone are no exception. -/
theorem preview_eq (c : Calculator) (text : String) : c.preview text = glimpsed (c.compute text) := by
  rw [preview, glance]
  split
  · next h => rw [compute_of_isEmpty_trim h]; rfl
  · rcases c.compute text with (m | s) | display <;> rfl

theorem commit_of_compute (c : Calculator) (text : String) :
    c.commit text = c.outcome text <$> settle (c.compute text) := by
  rw [commit_eq, ← compute_kind, outcome_settle]

/-- A mistake is labelled at every door. -/
theorem agree_of_mistake (hcompute : c.compute text = .error (.mistake m))
    (htrace : t.mistake? = some m) (hvalue : t.value? = none) (hdisplay : t.display = "")
    (hunread : m.kind = .invalidCharacter → t.tokens = [])
    (hread : m.kind ≠ .invalidCharacter → Token.scan text = .ok t.tokens)
    (hunordered : m.kind = .invalidCharacter ∨ m.kind = .mismatchedParentheses → t.rpn = [])
    (hordered : m.kind ≠ .invalidCharacter → m.kind ≠ .mismatchedParentheses →
      Token.toPostfix t.tokens = .ok t.rpn) :
    ∃ o, c.commit text = .ok o ∧ c.Agree text o t := by
  have hcommit : c.commit text = .ok (c.outcome text (.error m)) := by
    rw [commit_of_compute, hcompute]; rfl
  have hkind : t.errorKind? = some m.kind := by rw [Trace.errorKind?, htrace]; rfl
  have hmessage : t.errorMessage? = some m.message := by rw [Trace.errorMessage?, htrace]; rfl
  refine ⟨_, hcommit, ?_⟩
  constructor
  case kind => exact hkind.symm
  case preview => rw [preview_eq, hcompute, hdisplay]; rfl
  case answer => rw [answer, hcommit]; rfl
  case shown => exact nofun
  case hidden => exact fun _ => hdisplay
  case zero => exact fun h => if_pos (Option.some.inj h)
  case malformed =>
    rintro k h hk
    obtain rfl : m.kind = k := Option.some.inj h
    exact if_neg hk
  case value => rw [hvalue, hkind]; simp
  case message => rw [hmessage, hkind]; simp
  all_goals simpa [hkind]

/-- A signal passes through every door; otherwise every door opens, and they agree. -/
theorem exists_agree (c : Calculator) (text : String) :
    (∃ s, c.compute text = .error (.signal s) ∧ c.commit text = .error s ∧ c.answer text = .error s ∧
        c.preview text = .error s ∧ c.trace text = .error s) ∨
      ∃ o t, c.commit text = .ok o ∧ c.trace text = .ok t ∧ c.Agree text o t := by
  have htraced := traced c text
  generalize ht : c.trace text = t?, hr : c.compute text = r at htraced
  have hsignal : ∀ s, r = .error (.signal s) → c.commit text = .error s ∧ c.answer text = .error s ∧
      c.preview text = .error s := by
    rintro s rfl
    have hcommit := commit_eq_error_iff.mpr hr
    exact ⟨hcommit, by rw [answer, hcommit]; rfl, preview_eq_error_iff.mpr hr⟩
  cases htraced with
  | @unread m hscan =>
    obtain ⟨front, x, -, rfl⟩ := Token.scan_eq_error_iff.mp hscan
    obtain ⟨o, ho, hagree⟩ := agree_of_mistake hr (t := { expression := _, mistake? := some _ }) rfl rfl rfl
      (fun _ => rfl) (fun h => absurd rfl h) (fun _ => rfl) (fun h => absurd rfl h)
    exact .inr ⟨o, _, ho, rfl, hagree⟩
  | @unordered ts m hscan hrpn =>
    have hkind := Token.toPostfix_eq_error hrpn
    obtain ⟨o, ho, hagree⟩ := agree_of_mistake hr
      (t := { expression := _, tokens := ts, mistake? := some _ }) rfl rfl rfl
      (fun h => by rw [hkind] at h; cases h) (fun _ => hscan) (fun _ => rfl) (fun _ h => absurd hkind h)
    exact .inr ⟨o, _, ho, rfl, hagree⟩
  | @unevaluated ts rpn m hscan hrpn hvalue =>
    obtain ⟨hkind, hkind'⟩ := Evaluation.kind_of_evaluate hvalue
    obtain ⟨o, ho, hagree⟩ := agree_of_mistake hr
      (t := { expression := _, tokens := ts, rpn, mistake? := some _ }) rfl rfl rfl
      (fun h => absurd h hkind) (fun _ => hscan) (fun h => (h.elim hkind hkind').elim) (fun _ _ => hrpn)
    exact .inr ⟨o, _, ho, rfl, hagree⟩
  | signalled | unshown =>
    obtain ⟨hcommit, hanswer, hpreview⟩ := hsignal _ rfl
    exact .inl ⟨_, rfl, hcommit, hanswer, hpreview, rfl⟩
  | @shown ts rpn v display hscan hrpn =>
    have hcommit : c.commit text = .ok (c.outcome text (.ok display)) := by
      rw [commit_of_compute, hr]; rfl
    refine .inr ⟨_, _, hcommit, rfl, ?_⟩
    constructor
    case preview => rw [preview_eq, hr]; rfl
    case answer => rw [answer, hcommit]; rfl
    case hidden => exact fun h => absurd rfl h
    case value => simp [Trace.errorKind?]
    case message => simp [Trace.errorKind?, Trace.errorMessage?]
    case read => exact fun _ => hscan
    case ordered => exact fun _ _ => hrpn
    case unordered => rintro (h | h) <;> cases h
    all_goals first | rfl | exact fun _ => rfl | exact nofun

end Calculator

/-! ### On a terminal -/

namespace Terminal

open Calculator (Agree)
open Program (exitCode runOn)

variable {console : Console} {c : Calculator} {asked : Log.Level} {text : String} {o : Outcome} {t : Trace}

/-- A run exits with the code of its report; one without a report exits as if there were a mistake. -/
theorem exitCode_eq {r : Except Refusal Report} {mistaken : Bool}
    (hcode : ∀ report, r = .ok report → report.exitCode = Report.exitCodeOf mistaken)
    (hreport : mistaken = false → ∃ report, r = .ok report) :
    exitCode (.ok <$> r) = Report.exitCodeOf mistaken := by
  cases r with
  | ok report => exact hcode report rfl
  | error refusal =>
    cases mistaken with
    | true => rfl
    | false =>
      obtain ⟨report, h⟩ := hreport rfl
      cases h

/-- What a trace shows is a result or nothing, so that it is printed everywhere. -/
theorem encodes_display_trace (h : c.trace text = .ok t) (e : Encoding) :
    e.encodes t.display = true := by
  have htraced := c.traced text
  rw [h] at htraced
  generalize c.compute text = r at htraced
  cases htraced with
  | unread | unordered | unevaluated => rfl
  | shown _ _ _ hshown =>
    obtain ⟨ctx, -, hdisplay⟩ := bind_eq_ok_iff.mp hshown
    exact Encoding.encodes_display hdisplay

namespace Report

variable {json : Bool} {r : Report}

theorem exitCode_eval (h : c.commit text = .ok o) (hr : eval console c asked text json = .ok r) :
    r.exitCode = exitCodeOf o.isError := by
  obtain ⟨a, ha, rfl⟩ := map_eq_ok_iff.mp h
  rw [eval, ha] at hr
  simp only [Refusal.ofSignal, Evaluation.mapError_ok, ok_bind] at hr
  cases json with
  | true =>
    obtain ⟨shown, -, hr⟩ := bind_eq_ok_iff.mp hr
    cases hr
    rfl
  | false =>
    cases a with
    | error m => cases hr; rfl
    | ok display =>
      obtain ⟨shown, -, hr⟩ := bind_eq_ok_iff.mp hr
      cases hr
      rfl

/-- A text without a mistake is answered where its expression can be printed, and everywhere if its result alone is. -/
theorem exists_eval (h : c.commit text = .ok o) (hnone : o.errorKind? = none)
    (hdisplay : console.encoding.encodes o.display = true)
    (hjson : json = true → console.encoding.encodes o.expression = true) :
    ∃ r, eval console c asked text json = .ok r := by
  obtain ⟨a, ha, rfl⟩ := map_eq_ok_iff.mp h
  rw [eval, ha]
  simp only [Refusal.ofSignal, Evaluation.mapError_ok, ok_bind]
  cases json with
  | true =>
    rw [if_pos rfl, Console.print_of_encodes (Encoding.encodes_pretty (hjson rfl) hdisplay)]
    exact ⟨_, rfl⟩
  | false =>
    cases a with
    | error m => cases hnone
    | ok display =>
      rw [if_neg Bool.false_ne_true, Console.print_of_encodes hdisplay]
      exact ⟨_, rfl⟩

theorem exists_preview {p : String} (h : c.preview text = .ok p)
    (hp : console.encoding.encodes p = true) :
    ∃ r, preview console c asked text = .ok r ∧ r.exitCode = 0 ∧ r.stdout = p ++ "\n" := by
  obtain ⟨g, hg, -⟩ := bind_eq_ok_iff.mp h
  rw [preview, h, hg]
  simp only [Refusal.ofSignal, Evaluation.mapError_ok, ok_bind, Console.print_of_encodes hp]
  exact ⟨_, rfl, rfl, rfl⟩

theorem exitCode_rpn (h : c.trace text = .ok t) (hr : rpn console c text = .ok r) :
    r.exitCode = exitCodeOf t.mistake?.isSome := by
  rw [rpn, h] at hr
  simp only [Refusal.ofSignal, Evaluation.mapError_ok, ok_bind] at hr
  obtain ⟨drawings, -, hr⟩ := bind_eq_ok_iff.mp hr
  cases hr
  rfl

/-- **A text without a mistake is explained** on a console whose drawings of its tables can be printed. -/
theorem exists_rpn (hdraws : console.Draws) (h : c.trace text = .ok t) (ht : t.mistake? = none)
    (hprints : console.Prints (tables console.encoding t)) : ∃ r, rpn console c text = .ok r := by
  have hplain := plain_of_mem_tables h ht console.encoding
  obtain ⟨drawings, hdrawings⟩ :=
    exists_mapM fun table hmem => hdraws.exists_draw hprints hmem (hplain table hmem)
  rw [rpn, h]
  simp only [Refusal.ofSignal, Refusal.ofMarkup, Evaluation.mapError_ok, ok_bind, hdrawings]
  exact ⟨_, rfl⟩

end Report

open Command (ofArguments)

theorem runOn_of_ofArguments {s : Settings} {command : Command} {arguments : List String}
    (h : Setup.started s = .ok (c, asked)) (hcommand : ofArguments arguments = .ok command)
    (input : String) :
    runOn console (.ok s) arguments input = .ok <$> Program.perform console c asked input command := by
  rw [runOn, hcommand]
  simp only [Program.report, ok_bind, h]

/-- **All doors agree.**  A calculator that could be set up either ends in an overflow at every door or answers at every door, and then the answers belong together.

The program is run on any console, with settings it can be started with, on a text that does not overflow.  The commands that answer and explain the text exit with 1 if it has a mistake and with 0 if not.  For a text without a mistake this takes, where it is answered as a record, an encoding that holds the expression, and where it is explained, a console that draws tables without tags in characters the encoding holds; a result alone is printed everywhere.  The command that shows a text still being typed exits with 0 and shows its preview. -/
theorem doors_agree :
    (∀ (s : Settings) (c : Calculator), Setup.ofSettings s = .ok c → ∀ text,
      (c.commit text = .error .overflow ∧ c.answer text = .error .overflow ∧
        c.preview text = .error .overflow ∧ c.trace text = .error .overflow) ∨
      ∃ o t, c.commit text = .ok o ∧ c.trace text = .ok t ∧ c.Agree text o t) ∧
    ∀ (console : Console) (s : Settings) (c : Calculator) (asked : Log.Level),
      Setup.started s = .ok (c, asked) →
      ∀ (arguments : List String) (input text : String) (o : Outcome), c.commit text = .ok o →
        (∀ json, ofArguments arguments = .ok (.eval text json) →
          (json = true → o.errorKind? = none → console.encoding.encodes o.expression = true) →
          exitCode (runOn console (.ok s) arguments input) = if o.errorKind? = none then 0 else 1) ∧
        (ofArguments arguments = .ok (.rpn text) →
          (o.errorKind? = none → console.Draws ∧ ∀ t, c.trace text = .ok t →
            console.Prints (Report.tables console.encoding t)) →
          exitCode (runOn console (.ok s) arguments input) = if o.errorKind? = none then 0 else 1) ∧
        (ofArguments arguments = .ok (.preview text) →
          ∃ r shown, runOn console (.ok s) arguments input = .ok (.ok r) ∧ r.exitCode = 0 ∧
            c.preview text = .ok shown ∧ r.stdout = shown ++ "\n") := by
  refine ⟨fun s c hc text => ?_, fun console s c asked hstarted arguments input text o hcommit => ?_⟩
  · obtain ⟨ctx, hd⟩ := Calculator.display_of_ofSettings hc
    obtain ⟨s, hcompute, hsignal⟩ | hagree := c.exists_agree text
    · obtain ⟨rfl, -⟩ := (Calculator.compute_eq_signal_iff hd).mp hcompute
      exact .inl hsignal
    · exact .inr hagree
  · obtain ⟨s, -, hcommit', -⟩ | ⟨o', t, hcommit', htrace, hagree⟩ := c.exists_agree text
    · rw [hcommit] at hcommit'; cases hcommit'
    obtain rfl : o = o' := Except.ok.inj (hcommit.symm.trans hcommit')
    have hexit : (if o.errorKind? = none then 0 else 1) = Report.exitCodeOf o.isError := by
      rw [Outcome.isError]; cases o.errorKind? <;> rfl
    have hnone : o.isError = false → o.errorKind? = none := by
      rw [Outcome.isError]; cases o.errorKind? <;> simp
    have hmistake : t.mistake?.isSome = o.isError := by
      rw [Outcome.isError, hagree.kind, Trace.errorKind?, Option.isSome_map]
    have hdisplay := encodes_display_trace htrace console.encoding
    refine ⟨fun json h hjson => ?_, fun h hdrawn => ?_, fun h => ?_⟩ <;>
      rw [runOn_of_ofArguments hstarted h, Program.perform]
    · rw [hexit]
      refine exitCode_eq (fun r hr => Report.exitCode_eval hcommit hr) fun hok => ?_
      exact Report.exists_eval hcommit (hnone hok) (by rw [hagree.shown (hnone hok)]; exact hdisplay)
        fun hset => hjson hset (hnone hok)
    · rw [hexit, ← hmistake]
      refine exitCode_eq (fun r hr => Report.exitCode_rpn htrace hr) fun hok => ?_
      obtain ⟨hdraws, hprints⟩ := hdrawn (hnone (hmistake ▸ hok))
      exact Report.exists_rpn hdraws htrace (by simpa using hok) (hprints t htrace)
    · obtain ⟨r, hr, hcode, hstdout⟩ := Report.exists_preview hagree.preview hdisplay
      exact ⟨r, t.display, by rw [hr]; rfl, hcode, hagree.preview, hstdout⟩

theorem started_default : Setup.started {} = .ok (.ofSettings {}, .info) := by
  decide +kernel

theorem doors_agree_zero :
    (∃ o t, (Calculator.ofSettings {}).commit "1÷0" = .ok o ∧
        (Calculator.ofSettings {}).trace "1÷0" = .ok t ∧ (Calculator.ofSettings {}).Agree "1÷0" o t) ∧
      exitCode (runOn (.screen .ascii) (.ok {}) ["eval", "1÷0"] "") = 1 ∧
      exitCode (runOn (.screen .latin1) (.ok {}) ["eval", "--json", "2*3"] "") = 0 ∧
      exitCode (runOn (.screen .utf8) (.ok {}) ["rpn", "2*3"] "") = 0 := by
  have hzero : (Calculator.ofSettings {}).commit "1÷0" =
      .ok { expression := "1÷0", display := "Error", errorKind? := some .divisionByZero } := by
    decide +kernel
  have hsix : (Calculator.ofSettings {}).commit "2*3" = .ok { expression := "2×3", display := "6" } := by
    decide +kernel
  refine ⟨?_, ?_, ?_, ?_⟩
  · refine (doors_agree.1 {} (.ofSettings {}) rfl "1÷0").resolve_left fun h => ?_
    rw [hzero] at h
    cases h.1
  · obtain ⟨heval, -⟩ := doors_agree.2 (.screen .ascii) {} _ _ started_default
      ["eval", "1÷0"] "" "1÷0" _ hzero
    exact heval false (by decide +kernel) (fun h => absurd h (by decide))
  · obtain ⟨heval, -⟩ := doors_agree.2 (.screen .latin1) {} _ _ started_default
      ["eval", "--json", "2*3"] "" "2*3" _ hsix
    exact heval true (by decide +kernel) (fun _ _ => by decide)
  · obtain ⟨-, hrpn, -⟩ := doors_agree.2 (.screen .utf8) {} _ _ started_default
      ["rpn", "2*3"] "" "2*3" _ hsix
    exact hrpn (by decide +kernel) fun _ => ⟨Console.draws_screen .utf8, fun _ _ => Console.prints_of_utf8 rfl _⟩

/-- These settings name no level of the log. -/
def unlevelled : Settings := { (default : Settings) with logLevel := "nonsense" }

/-- **A run can fail though there is no mistake in its text.**  A program whose settings name no level of the log does not start, and a record is not written to a terminal that has no bytes for the expression. -/
theorem fails_without_mistake :
    ((Setup.ofSettings unlevelled).toOption.map fun c => Outcome.errorKind? <$> c.commit "1")
        = some (.ok none) ∧
      runOn (.screen .utf8) (.ok unlevelled) ["eval", "1"] "" = .error (.logLevel "NONSENSE") ∧
      exitCode (runOn (.screen .utf8) (.ok unlevelled) ["eval", "1"] "") = 1 ∧
      Outcome.errorKind? <$> (Calculator.ofSettings {}).commit "2*3" = .ok none ∧
      runOn (.screen .ascii) (.ok {}) ["eval", "--json", "2*3"] ""
        = .error (.markup (.unencodable .ascii 20 ['×'])) ∧
      exitCode (runOn (.screen .ascii) (.ok {}) ["eval", "--json", "2*3"] "") = 1 := by
  decide +kernel

end Terminal

end Reckoner
