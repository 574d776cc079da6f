import Flotilla.Proofs.Text.Decoding
import Flotilla.Proofs.Text.Pieces
import Flotilla.Tools.Docker
import Flotilla.Tools.Kind

/-!
# How the answers of the tools are told apart

A tool that was asked for something leaves a status and two streams of bytes, or could not be run.
`Asked` says in terms of these bytes what is made of it, with one case for each way it can go, and
`Rendered` says it for a kubeconfig.  The two structures turn the cases around: they say for each
answer and each failure when it is given.

The one case that is not plain is a tool that does not know the cluster.  It is told by a word that
is looked for after the bytes of the error stream were read as text, with U+FFFD for what is
malformed, and trimmed.  The word is of characters below 128 and neither starts nor ends with a
blank, so it is there exactly if its bytes were written (`kept_noNodes_iff`).

* `answers_told`: what every outcome of a tool is taken for.
-/

namespace Flotilla.Tools

open Text (encode encode_injective)

/-! ## Asking a tool -/

theorem Status.succeeded_iff {status : Status} : status.succeeded = true ↔ status = .code 0 := by
  cases status with
  | code n => simp [Status.succeeded]
  | signal n => simp [Status.succeeded]

/-- What the error stream is kept as. -/
def Output.said (o : Output) : String := Text.trim (Text.decodeLossy o.stderr)

/-- What comes of asking a tool, in terms of the bytes it wrote. -/
inductive Asked (command : String) : Outcome → Except CommandFailure String → Prop
  | unrunnable (reason : String) :
      Asked command (.error reason) (.error (.unrunnable command reason))
  | unsuccessful (o : Output) (hend : o.status ≠ .code 0) :
      Asked command (.ok o) (.error (.unsuccessful command o.status.text o.said))
  | notText (o : Output) (reason : String) (hend : o.status = .code 0)
      (hbytes : ∀ text, encode text ≠ o.stdout) :
      Asked command (.ok o) (.error (.invalidOutput command reason))
  | answered (o : Output) (text : String) (hend : o.status = .code 0)
      (hbytes : encode text = o.stdout) : Asked command (.ok o) (.ok text)

theorem asked_ask (machine : Machine) (binary : String) (args : List String) :
    Asked (commandLine binary args) (machine binary args) (machine.ask binary args) := by
  rw [Machine.ask]
  cases machine binary args with
  | error reason => exact .unrunnable reason
  | ok o =>
    by_cases hend : o.status = .code 0
    · cases hread : Text.decode o.stdout with
      | ok text =>
        rw [answer, if_pos (Status.succeeded_iff.mpr hend), hread]
        exact .answered o text hend (Text.decode_eq_ok_iff.mp hread)
      | error fault =>
        rw [answer, if_pos (Status.succeeded_iff.mpr hend), hread]
        refine .notText o _ hend fun text htext => ?_
        cases hread.symm.trans (Text.decode_eq_ok_iff.mpr htext)
    · rw [answer, if_neg fun h => hend (Status.succeeded_iff.mp h)]
      exact .unsuccessful o hend

/-! ## The word for a cluster that is not known -/

theorem ascii_of_mem_noNodes (c : Char) (hc : c ∈ noNodes.toList) : Text.Ascii c := by
  have hall : noNodes.toList.all (fun c => decide (Text.Ascii c)) = true := by decide
  exact of_decide_eq_true (List.all_eq_true.mp hall c hc)

/-- The word is in the text that is kept exactly if its bytes are in the bytes that were written. -/
theorem kept_noNodes_iff (stderr : List UInt8) :
    noNodes.toList <:+: (Text.trim (Text.decodeLossy stderr)).toList ↔
      encode noNodes <:+: stderr := by
  obtain ⟨c, word, d, rest, hword, hrest, hc, hd⟩ : ∃ c word d rest, noNodes.toList = c :: word ∧
      (c :: word).reverse = d :: rest ∧ Text.isBlank c = false ∧ Text.isBlank d = false :=
    ⟨_, _, _, _, rfl, rfl, by decide, by decide⟩
  rw [← Text.infix_decodeLossy_iff ascii_of_mem_noNodes, Text.trim, String.toList_ofList, hword]
  exact Text.infix_trimList_iff hc hd hrest

/-! ## A kubeconfig -/

/-- What comes of asking for the kubeconfig of a cluster, in terms of the bytes written. -/
inductive Rendered (command cluster : String) : Outcome → Except CommandFailure String → Prop
  | unrunnable (reason : String) :
      Rendered command cluster (.error reason) (.error (.unrunnable command reason))
  | notFound (o : Output) (hend : o.status ≠ .code 0) (hword : encode noNodes <:+: o.stderr) :
      Rendered command cluster (.ok o) (.error (.notFound cluster))
  | unsuccessful (o : Output) (hend : o.status ≠ .code 0) (hnot : ¬ encode noNodes <:+: o.stderr) :
      Rendered command cluster (.ok o) (.error (.unsuccessful command o.status.text o.said))
  | notText (o : Output) (reason : String) (hend : o.status = .code 0)
      (hbytes : ∀ text, encode text ≠ o.stdout) :
      Rendered command cluster (.ok o) (.error (.invalidOutput command reason))
  | blank (o : Output) (text reason : String) (hend : o.status = .code 0)
      (hbytes : encode text = o.stdout) (hblank : Text.Blank text.toList) :
      Rendered command cluster (.ok o) (.error (.invalidOutput command reason))
  | rendered (o : Output) (text : String) (hend : o.status = .code 0)
      (hbytes : encode text = o.stdout) (hblank : ¬ Text.Blank text.toList) :
      Rendered command cluster (.ok o) (.ok text)

theorem rendered_kubeconfig (k : Kind) (machine : Machine) (cluster : String)
    (endpoint : Endpoint) :
    Rendered (commandLine k.binary (Kind.kubeconfigArgs cluster endpoint)) cluster
      (machine k.binary (Kind.kubeconfigArgs cluster endpoint))
      (k.kubeconfig machine cluster endpoint) := by
  have hasked := asked_ask machine k.binary (Kind.kubeconfigArgs cluster endpoint)
  rw [Kind.kubeconfig]
  generalize machine k.binary (Kind.kubeconfigArgs cluster endpoint) = outcome at hasked ⊢
  generalize machine.ask k.binary (Kind.kubeconfigArgs cluster endpoint) = asked at hasked ⊢
  cases hasked with
  | unrunnable reason => exact .unrunnable reason
  | unsuccessful o hend =>
    have hfound : Text.hasWord noNodes.toList o.said.toList = true ↔ encode noNodes <:+: o.stderr :=
      Text.hasWord_iff.trans (kept_noNodes_iff o.stderr)
    by_cases hword : encode noNodes <:+: o.stderr
    · simp only [Kind.classify, if_pos (hfound.mpr hword)]
      exact .notFound o hend hword
    · simp only [Kind.classify, if_neg fun h => hword (hfound.mp h)]
      exact .unsuccessful o hend hword
  | notText o reason hend hbytes => exact .notText o reason hend hbytes
  | answered o text hend hbytes =>
    by_cases hblank : Text.Blank text.toList
    · simp only [if_pos (Text.allBlank_iff.mpr hblank)]
      exact .blank o text _ hend hbytes hblank
    · simp only [if_neg fun h => hblank (Text.allBlank_iff.mp h)]
      exact .rendered o text hend hbytes hblank

section

variable {command cluster : String} {outcome : Outcome} {result : Except CommandFailure String}

/-- When a kubeconfig is given, and when which failure. -/
structure KubeconfigTold (command cluster : String) (outcome : Outcome)
    (result : Except CommandFailure String) : Prop where
  /-- It could not be run. -/
  unrunnable : ∀ run reason, result = .error (.unrunnable run reason) ↔
    run = command ∧ outcome = .error reason
  /-- It ended unsuccessfully, and the bytes of the word are on its error stream.  No other cluster
  is named. -/
  notFound : ∀ name, result = .error (.notFound name) ↔
    name = cluster ∧ ∃ o, outcome = .ok o ∧ o.status ≠ .code 0 ∧ encode noNodes <:+: o.stderr
  /-- It ended unsuccessfully without the word, whatever it wrote to its output. -/
  unsuccessful : ∀ run status stderr, result = .error (.unsuccessful run status stderr) ↔
    ∃ o, outcome = .ok o ∧ o.status ≠ .code 0 ∧ ¬ encode noNodes <:+: o.stderr ∧
      run = command ∧ status = o.status.text ∧ stderr = o.said
  /-- It ended well, and its output is of no text or of a blank one. -/
  invalidOutput : ∀ run, (∃ reason, result = .error (.invalidOutput run reason)) ↔
    run = command ∧ ∃ o, outcome = .ok o ∧ o.status = .code 0 ∧
      ((∀ text, encode text ≠ o.stdout) ∨
        ∃ text, encode text = o.stdout ∧ Text.Blank text.toList)
  /-- It ended well, and its output is this text, which is not blank. -/
  rendered : ∀ text, result = .ok text ↔ ∃ o, outcome = .ok o ∧ o.status = .code 0 ∧
    encode text = o.stdout ∧ ¬ Text.Blank text.toList

namespace Rendered

theorem unrunnable_iff (h : Rendered command cluster outcome result) (run reason : String) :
    result = .error (.unrunnable run reason) ↔ run = command ∧ outcome = .error reason := by
  constructor
  · rintro rfl
    cases h with
    | unrunnable => exact ⟨rfl, rfl⟩
  · rintro ⟨rfl, rfl⟩
    cases h with
    | unrunnable => rfl

theorem notFound_iff (h : Rendered command cluster outcome result) (name : String) :
    result = .error (.notFound name) ↔ name = cluster ∧
      ∃ o, outcome = .ok o ∧ o.status ≠ .code 0 ∧ encode noNodes <:+: o.stderr := by
  constructor
  · rintro rfl
    cases h with
    | notFound o hend hword => exact ⟨rfl, o, rfl, hend, hword⟩
  · rintro ⟨rfl, o, rfl, hend, hword⟩
    cases h with
    | notFound => rfl
    | unsuccessful _ _ hnot => exact absurd hword hnot
    | notText _ _ hok => exact absurd hok hend
    | blank _ _ _ hok => exact absurd hok hend
    | rendered _ _ hok => exact absurd hok hend

theorem unsuccessful_iff (h : Rendered command cluster outcome result)
    (run status stderr : String) : result = .error (.unsuccessful run status stderr) ↔
      ∃ o, outcome = .ok o ∧ o.status ≠ .code 0 ∧ ¬ encode noNodes <:+: o.stderr ∧
        run = command ∧ status = o.status.text ∧ stderr = o.said := by
  constructor
  · rintro rfl
    cases h with
    | unsuccessful o hend hnot => exact ⟨o, rfl, hend, hnot, rfl, rfl, rfl⟩
  · rintro ⟨o, rfl, hend, hnot, rfl, rfl, rfl⟩
    cases h with
    | notFound _ _ hword => exact absurd hword hnot
    | unsuccessful => rfl
    | notText _ _ hok => exact absurd hok hend
    | blank _ _ _ hok => exact absurd hok hend
    | rendered _ _ hok => exact absurd hok hend

theorem invalidOutput_iff (h : Rendered command cluster outcome result) (run : String) :
    (∃ reason, result = .error (.invalidOutput run reason)) ↔
      run = command ∧ ∃ o, outcome = .ok o ∧ o.status = .code 0 ∧
        ((∀ text, encode text ≠ o.stdout) ∨
          ∃ text, encode text = o.stdout ∧ Text.Blank text.toList) := by
  constructor
  · rintro ⟨reason, rfl⟩
    cases h with
    | notText o _ hend hbytes => exact ⟨rfl, o, rfl, hend, .inl hbytes⟩
    | blank o text _ hend hbytes hblank => exact ⟨rfl, o, rfl, hend, .inr ⟨text, hbytes, hblank⟩⟩
  · rintro ⟨rfl, o, rfl, hend, hbad⟩
    cases h with
    | notFound _ hbad' => exact absurd hend hbad'
    | unsuccessful _ hbad' => exact absurd hend hbad'
    | notText _ reason => exact ⟨reason, rfl⟩
    | blank _ _ reason => exact ⟨reason, rfl⟩
    | rendered _ text _ hbytes hblank =>
      obtain hnone | ⟨text', hbytes', hblank'⟩ := hbad
      · exact absurd hbytes (hnone text)
      · obtain rfl : text' = text := encode_injective (hbytes'.trans hbytes.symm)
        exact absurd hblank' hblank

theorem rendered_iff (h : Rendered command cluster outcome result) (text : String) :
    result = .ok text ↔ ∃ o, outcome = .ok o ∧ o.status = .code 0 ∧ encode text = o.stdout ∧
      ¬ Text.Blank text.toList := by
  constructor
  · rintro rfl
    cases h with
    | rendered o _ hend hbytes hblank => exact ⟨o, rfl, hend, hbytes, hblank⟩
  · rintro ⟨o, rfl, hend, hbytes, hblank⟩
    cases h with
    | notFound _ hbad => exact absurd hend hbad
    | unsuccessful _ hbad => exact absurd hend hbad
    | notText _ _ _ hnone => exact absurd hbytes (hnone text)
    | blank _ text' _ _ hbytes' hblank' =>
      obtain rfl : text' = text := encode_injective (hbytes'.trans hbytes.symm)
      exact absurd hblank' hblank
    | rendered _ text' _ hbytes' =>
      obtain rfl : text' = text := encode_injective (hbytes'.trans hbytes.symm)
      rfl

theorem told (h : Rendered command cluster outcome result) :
    KubeconfigTold command cluster outcome result where
  unrunnable := h.unrunnable_iff
  notFound := h.notFound_iff
  unsuccessful := h.unsuccessful_iff
  invalidOutput := h.invalidOutput_iff
  rendered := h.rendered_iff

end Rendered

end

/-! ## A list -/

/-- When a list is given, and when which failure. -/
structure ListTold (command : String) (outcome : Outcome)
    (result : Except CommandFailure (List String)) : Prop where
  /-- It could not be run. -/
  unrunnable : ∀ run reason, result = .error (.unrunnable run reason) ↔
    run = command ∧ outcome = .error reason
  /-- It ended unsuccessfully, whatever it wrote to its output. -/
  unsuccessful : ∀ run status stderr, result = .error (.unsuccessful run status stderr) ↔
    ∃ o, outcome = .ok o ∧ o.status ≠ .code 0 ∧
      run = command ∧ status = o.status.text ∧ stderr = o.said
  /-- It ended well, and its output is of no text. -/
  invalidOutput : ∀ run, (∃ reason, result = .error (.invalidOutput run reason)) ↔
    run = command ∧ ∃ o, outcome = .ok o ∧ o.status = .code 0 ∧ ∀ text, encode text ≠ o.stdout
  /-- A cluster that is not known is nothing to a list. -/
  found : ∀ cluster, result ≠ .error (.notFound cluster)
  /-- It ended well, and these are the lines of its output, trimmed, that are not empty. -/
  listed : ∀ names, result = .ok names ↔
    ∃ o text, outcome = .ok o ∧ o.status = .code 0 ∧ encode text = o.stdout ∧
      names.map String.toList = ((text.toList.splitOn '\n').map Text.trimList).filter (· ≠ [])
  /-- An empty output is an empty list. -/
  empty : ∀ o, outcome = .ok o → o.status = .code 0 → o.stdout = [] → result = .ok []

theorem map_nonEmptyLines (text : String) : (Text.nonEmptyLines text).map String.toList =
    ((text.toList.splitOn '\n').map Text.trimList).filter (· ≠ []) := by
  have hid : String.toList ∘ String.ofList = id := funext fun _ => String.toList_ofList
  rw [Text.nonEmptyLines, List.map_map, hid, List.map_id, Text.nonEmptyLineList, Text.splitOn_eq]
  refine List.filter_congr fun line _ => ?_
  cases line with
  | nil => rfl
  | cons c line => rfl

theorem nonEmptyLines_eq_iff {text : String} {names : List String} :
    Text.nonEmptyLines text = names ↔ names.map String.toList =
      ((text.toList.splitOn '\n').map Text.trimList).filter (· ≠ []) := by
  rw [← map_nonEmptyLines, eq_comm]
  exact (List.map_injective_iff.mpr fun _ _ => String.toList_injective).eq_iff.symm

section

variable {command : String} {outcome : Outcome} {asked : Except CommandFailure String}

theorem Asked.listTold (h : Asked command outcome asked) :
    ListTold command outcome (asked.map Text.nonEmptyLines) where
  unrunnable run reason := by
    constructor
    · intro hresult
      cases h with
      | unrunnable =>
        cases hresult
        exact ⟨rfl, rfl⟩
      | _ => cases hresult
    · rintro ⟨rfl, rfl⟩
      cases h with
      | unrunnable => rfl
  unsuccessful run status stderr := by
    constructor
    · intro hresult
      cases h with
      | unsuccessful o hend =>
        cases hresult
        exact ⟨o, rfl, hend, rfl, rfl, rfl⟩
      | _ => cases hresult
    · rintro ⟨o, rfl, hend, rfl, rfl, rfl⟩
      cases h with
      | unsuccessful => rfl
      | notText _ _ hok => exact absurd hok hend
      | answered _ _ hok => exact absurd hok hend
  invalidOutput run := by
    constructor
    · rintro ⟨reason, hresult⟩
      cases h with
      | notText o _ hend hbytes =>
        cases hresult
        exact ⟨rfl, o, rfl, hend, hbytes⟩
      | _ => cases hresult
    · rintro ⟨rfl, o, rfl, hend, hnone⟩
      cases h with
      | unsuccessful _ hbad => exact absurd hend hbad
      | notText _ reason => exact ⟨reason, rfl⟩
      | answered _ text _ hbytes => exact absurd hbytes (hnone text)
  found cluster hresult := by cases h with | _ => cases hresult
  listed names := by
    constructor
    · intro hresult
      cases h with
      | answered o text hend hbytes =>
        exact ⟨o, text, rfl, hend, hbytes, nonEmptyLines_eq_iff.mp (Except.ok.inj hresult)⟩
      | _ => cases hresult
    · rintro ⟨o, text, rfl, hend, hbytes, hnames⟩
      cases h with
      | unsuccessful _ hbad => exact absurd hend hbad
      | notText _ _ _ hnone => exact absurd hbytes (hnone text)
      | answered _ text' _ hbytes' =>
        obtain rfl : text' = text := encode_injective (hbytes'.trans hbytes.symm)
        exact congrArg Except.ok (nonEmptyLines_eq_iff.mpr hnames)
  empty o houtcome hend hstdout := by
    subst houtcome
    have hbytes : encode "" = o.stdout := by rw [hstdout]; exact Text.encode_ofList []
    cases h with
    | unsuccessful _ hbad => exact absurd hend hbad
    | notText _ _ _ hnone => exact absurd hbytes (hnone "")
    | answered _ text _ hbytes' =>
      obtain rfl : text = "" := encode_injective (hbytes'.trans hbytes.symm)
      rfl

end

/-! ## The tools -/

/-- What is made of the outcomes that a machine gives. -/
structure AnswersTold (machine : Machine) : Prop where
  /-- What is malformed on the error stream and the blanks around it neither make the word nor
  destroy it. -/
  kept : ∀ stderr : List UInt8,
    noNodes.toList <:+: (Text.trim (Text.decodeLossy stderr)).toList ↔ encode noNodes <:+: stderr
  kubeconfig : ∀ (k : Kind) (cluster : String) (endpoint : Endpoint),
    KubeconfigTold (commandLine k.binary (Kind.kubeconfigArgs cluster endpoint)) cluster
      (machine k.binary (Kind.kubeconfigArgs cluster endpoint))
      (k.kubeconfig machine cluster endpoint)
  clusters : ∀ k : Kind, ListTold (commandLine k.binary Kind.listArgs)
    (machine k.binary Kind.listArgs) (k.clusters machine)
  containers : ∀ (d : Docker) (label : String), ListTold
    (commandLine d.binary (Docker.listArgs label)) (machine d.binary (Docker.listArgs label))
    (d.containers machine label)

/-- Every outcome of a tool is taken for what its bytes say. -/
theorem answers_told (machine : Machine) : AnswersTold machine where
  kept := kept_noNodes_iff
  kubeconfig k cluster endpoint := (rendered_kubeconfig k machine cluster endpoint).told
  clusters k := (asked_ask machine k.binary Kind.listArgs).listTold
  containers d label := (asked_ask machine d.binary (Docker.listArgs label)).listTold

end Flotilla.Tools
