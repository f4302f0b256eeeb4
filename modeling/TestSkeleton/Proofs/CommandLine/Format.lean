import TestSkeleton.Proofs.CommandLine.Ending
import TestSkeleton.Proofs.Text.Encoding

set_option autoImplicit false

/-! # The two formats

The same tests can be shown or written to a file. The file holds all of their characters, but what
is shown goes without control sequences. So the two formats agree just if there are none
(`formats_agree_iff`), and there can be some: a template may hold them
(`redTemplate_differs`).
-/

namespace TestSkeleton

open Text

namespace GenerationRequest

/-- The request with another format. -/
def withFormat (g : GenerationRequest) (f : OutputFormat) : GenerationRequest := { g with format := f }

/-- **What the formats make of the same tests**, whatever code of others does. If the file can be
written, it holds the tests as they are, and on the standard output they stand without their control
sequences, behind what was there when they were generated. Where there was nothing, the bytes are the
same just if there is no control sequence in the tests. There is nothing if there was nothing before
the run and code of others writes nothing; and with the standard engine there is no code of others for
a description. -/
theorem formats_agree_iff {μ : Type} (p : Platform μ) (g : GenerationRequest) (s : Machine μ)
    (hwritten : ((g.withFormat .file).runOn p s).ending = .exit 0) :
    ∃ c t v u path,
      g.generateOn p (s.setUp g.verbose) = ⟨v, .ok (c, t)⟩ ∧ g.pathOn c v = ⟨u, .ok path⟩ ∧
      ((g.withFormat .text).runOn p s).ending = .exit 0 ∧
      ((g.withFormat .text).runOn p s).output = v.output ++ withoutControls t ∧
      ((g.withFormat .file).runOn p s).files.read path.toText = .ok (encode t) ∧
      (v.output = [] →
        (((g.withFormat .file).runOn p s).files.read path.toText
            = .ok (encode ((g.withFormat .text).runOn p s).output)
          ↔ ¬ HoldsControl t)) ∧
      ((∀ a b, p.CarriesOut g a b → b.output = a.output) → v.output = s.output) ∧
      ∀ source, g.origin = .description source → p.engine = .standard → v.output = s.output := by
  cases produces_of_ending hwritten with
  | shown _ hformat => cases hformat
  | @written c t v u path h _ hpath _ hfile =>
      have hrun : (g.withFormat .text).runOn p s = _ := runOn_of_generated h
      rw [emit_of_text rfl] at hrun
      have houtput : ((g.withFormat .text).runOn p s).output = v.output ++ withoutControls t := by
        rw [hrun]
        rfl
      have hkept (hcode : ∀ a b, p.CarriesOut g a b → b.output = a.output) :
          v.output = s.output := by
        have hsetUp : p.Leads g s (s.setUp g.verbose) := leads_of_speaks (.setUp _ s)
        have hleads := hsetUp.trans (generateOn_leads (s.setUp g.verbose))
        have hv : (g.generateOn p (s.setUp g.verbose)).state = v := congrArg Outcome.state h
        exact eq_of_leads (hv ▸ hleads) (fun _ _ h => h.output) hcode
      refine ⟨c, t, v, u, path, h, hpath, by rw [hrun], houtput, hfile, fun hnone => ?_, hkept,
        fun source hsource hengine => ?_⟩
      · rw [houtput, hnone, List.nil_append, hfile, ← withoutControls_eq_self_iff]
        constructor
        · intro hbytes
          exact (encode_injective (Except.ok.inj hbytes)).symm
        · intro hsame
          rw [hsame]
      · exact hkept fun a b hab => by rw [Platform.eq_of_carriesOut hengine hsource hab]

end GenerationRequest

/-! ### A template with a control sequence -/

/-- The request to generate the tests of a class with a template. -/
def templateRequest : GenerationRequest where
  origin := .description ⟨[], ["m"]⟩
  output := some "o"
  templateDirectory := some "t"

theorem plainTemplate_written :
    ((templateRequest.withFormat .file).run (templateWorld "x")).ending = .exit 0 ∧
    ∃ path t,
      ((templateRequest.withFormat .file).run (templateWorld "x")).files.read path
        = .ok (encode t) ∧
      ((templateRequest.withFormat .text).run (templateWorld "x")).output = withoutControls t := by
  have hwritten : ((templateRequest.withFormat .file).run (templateWorld "x")).ending = .exit 0 :=
    Ending.eq_exit_iff.mpr (by decide +kernel)
  obtain ⟨c, t, v, u, path, -, -, -, houtput, hfile, -, -, hnone⟩ :=
    GenerationRequest.formats_agree_iff (templateWorld "x").platform templateRequest
      (templateWorld "x").machine hwritten
  rw [hnone _ rfl rfl] at houtput
  exact ⟨hwritten, path.toText, t, hfile, houtput⟩

/-- A template that holds the control sequence for red letters makes a difference. -/
theorem redTemplate_differs :
    ¬ ∀ (w : World) (g : GenerationRequest) (path : Text), g.output = some path →
      ((g.withFormat .text).run w).ending = .exit 0 →
      ((g.withFormat .file).run w).ending = .exit 0 →
      ((g.withFormat .file).run w).files.read (FilePath.ofText path).toText
        = .ok (encode ((g.withFormat .text).run w).output) := by
  intro h
  have hsame := h (templateWorld "\x1b[31mx") templateRequest "o" rfl
    (Ending.eq_exit_iff.mpr (by decide +kernel)) (Ending.eq_exit_iff.mpr (by decide +kernel))
  have hdiffer : ((templateRequest.withFormat .file).run (templateWorld "\x1b[31mx")).files.read
        (FilePath.ofText "o").toText
      ≠ .ok (encode ((templateRequest.withFormat .text).run (templateWorld "\x1b[31mx")).output) := by
    decide +kernel
  exact hdiffer hsame

end TestSkeleton
