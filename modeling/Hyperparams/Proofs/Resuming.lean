import Hyperparams.Proofs.Directories
import Hyperparams.Proofs.Outcomes

/-!
# Taking directories out of tokens in parts

Tokens are read from the left, and all that is known after some of them are the directories and what
is left. So a reading may stop after tokens that it accepts and go on from there. The flag of a
directory leads to the same place whether its value is joined to it or comes in a token of its own.
-/

namespace Hyperparams.Protocol

section Resuming

variable {c : Config} {d d' : Directories} {tokens left : List String} {name value : String}

def withFront (front : List String) (run : Directories × List String) : Directories × List String :=
  (run.1, front ++ run.2)

/-- A foreign token is left in front of what is left of the others. -/
theorem scan_cons_of_none {token : String} (h : c.directoryFlag? token = none)
    (d : Directories) (rest : List String) :
    c.scan d (token :: rest) = (c.scan d rest).map (withFront [token]) := by
  rw [Config.scan, h]
  dsimp only
  cases c.scan d rest <;> rfl

/-- A joined value is taken for the flag in front of it. -/
theorem scan_joined (hc : c.validate = .ok ()) (hname : c.isFlag name = true) (value : String)
    (d : Directories) (rest : List String) :
    c.scan d (("--" ++ name ++ "=" ++ value) :: rest) = c.scan (d.set name value) rest := by
  rw [Config.scan, Config.directoryFlag?_joined hc hname]

/-- The token behind a flag is taken for it unless it looks like a flag. -/
theorem scan_separate (hc : c.validate = .ok ()) (hname : c.isFlag name = true)
    (hvalue : Tokenized.isFlag value = false) (d : Directories) (rest : List String) :
    c.scan d (("--" ++ name) :: value :: rest) = c.scan (d.set name value) rest := by
  rw [Config.scan, Config.directoryFlag?_flag hc hname]
  dsimp only
  rw [if_neg (Bool.eq_false_iff.mp hvalue)]

/-- After tokens that are accepted, the scan goes on with the directories that they give. -/
theorem scan_append (h : c.scan d tokens = .ok (d', left)) (rest : List String) :
    c.scan d (tokens ++ rest) = (c.scan d' rest).map (withFront left) := by
  fun_induction Config.scan c d tokens generalizing left with
  | case1 d =>
      cases h
      rw [List.nil_append]
      cases c.scan d' rest <;> rfl
  | case2 d token others hnone ih =>
      obtain ⟨⟨last, others'⟩, hothers, hresult⟩ := Outcome.bind_eq_ok_iff.mp h
      cases hresult
      rw [List.cons_append, scan_cons_of_none hnone, ih hothers]
      cases c.scan d' rest <;> rfl
  | case3 d token others name value hflag ih =>
      rw [List.cons_append, Config.scan, hflag]
      exact ih h
  | case4 d token name hflag => cases h
  | case5 d token name hflag value others hvalue => cases h
  | case6 d token name hflag value others hvalue ih =>
      rw [List.cons_append, List.cons_append, Config.scan, hflag]
      dsimp only
      rw [if_neg hvalue]
      exact ih h

/-- Behind tokens that are accepted, the flag of a directory may have its value joined to it or in a
token of its own: the outcome and what is reported are the same. And all that the tokens so far
count for are the directories that they give and the tokens that they leave. -/
theorem parse_resumes (hc : c.validate = .ok ()) (start : Directories)
    (h : (c.parse start tokens).result = .ok (d, left)) (rest : List String) :
    (∀ name value, c.isFlag name = true → Tokenized.isFlag value = false →
      c.parse start (tokens ++ ("--" ++ name) :: value :: rest) =
        c.parse start (tokens ++ ("--" ++ name ++ "=" ++ value) :: rest)) ∧
      (c.parse start (tokens ++ rest)).result =
        (c.parse d rest).result.map fun run => (run.1, left ++ run.2) := by
  rw [parse_result] at h
  refine ⟨fun name value hname hvalue => ?_, ?_⟩
  · have hscan : c.scan start (tokens ++ ("--" ++ name) :: value :: rest) =
        c.scan start (tokens ++ ("--" ++ name ++ "=" ++ value) :: rest) := by
      rw [scan_append h, scan_append h, scan_separate hc hname hvalue, scan_joined hc hname]
    unfold Config.parse
    rw [hscan]
  · rw [parse_result, parse_result]
    exact scan_append h rest

/-- A value with an equals sign of its own in both spellings, and a flag that ends without a
value. -/
theorem parse_resumes_trainTokens :
    let start := trainConfig.defaults fun _ => none
    let resolved : Directories := ⟨"model", "output", .ofList [("train", "new")]⟩
    trainConfig.validate = .ok () ∧
      (trainConfig.parse start trainTokens).result = .ok (resolved, ["--lr", "1"]) ∧
      trainConfig.isFlag "train" = true ∧ Tokenized.isFlag "a=b" = false ∧
      trainConfig.parse start (trainTokens ++ ["--" ++ "train", "a=b", "--train"]) =
        trainConfig.parse start (trainTokens ++ ["--" ++ "train" ++ "=" ++ "a=b", "--train"]) ∧
      (trainConfig.parse start (trainTokens ++ ["--epochs", "3"])).result =
        .ok (resolved, ["--lr", "1", "--epochs", "3"]) := by
  intro start resolved
  have hc : trainConfig.validate = .ok () := by decide
  have hrun : (trainConfig.parse start trainTokens).result = .ok (resolved, ["--lr", "1"]) := by
    decide +kernel
  have hname : trainConfig.isFlag "train" = true := by decide
  have hvalue : Tokenized.isFlag "a=b" = false := by decide
  obtain ⟨hspellings, -⟩ := parse_resumes hc start hrun ["--train"]
  obtain ⟨-, hresumed⟩ := parse_resumes hc start hrun ["--epochs", "3"]
  have hrest : (trainConfig.parse resolved ["--epochs", "3"]).result =
      .ok (resolved, ["--epochs", "3"]) := by
    decide +kernel
  refine ⟨hc, hrun, hname, hvalue, hspellings "train" "a=b" hname hvalue, ?_⟩
  rw [hresumed, hrest]
  rfl

end Resuming

end Hyperparams.Protocol
