import MapMarkup.ExceptionReport
import MapMarkup.Proofs.GetMap.Accepted
import MapMarkup.Proofs.GetMap.Canonical
import MapMarkup.Proofs.Publisher.Refusal
import MapMarkup.Proofs.Text.Case
import MapMarkup.Proofs.Xml.Processor
import MapMarkup.Rendering

/-!
# What a client reads in an exception report

A report says one exception: its code, the parameter it is about if there is one, and a message.
Read as XML with the entities alone, every report says what its error says. A processor sees more
than the entities: characters that XML forbids are written as they are, so the processor refuses the
report, and so are line ends, so the processor passes them on as line feeds
(`ServiceError.process_report`).

The errors of queries name a parameter (`Publisher.locator_of_answer_eq_error`), so in their reports
the message alone can get lost.
-/

namespace MapMarkup

/-! ### Reports -/

/-- The elements that hold text in an exception report. -/
def holdsException (name : String) : Bool :=
  name = "ServiceException"

def reportAttributes : List Xml.Attribute :=
  [("version", "1.3.0"), ("xmlns", "http://www.opengis.net/ogc")]

def exceptionAttributes (code : String) (locator : Option String) : List Xml.Attribute :=
  ("code", code) :: (locator.map fun l => ("locator", l)).toList

def exceptionElement (code : String) (locator : Option String) (message : String) : Xml.Element :=
  .block "ServiceExceptionReport" reportAttributes
    [.text "ServiceException" (exceptionAttributes code locator) message]

/-- The text of a report, after the declaration. -/
def exceptionChars (code : String) (locator : Option String) (message : String) : List Char :=
  '<' :: (Xml.tagChars "ServiceExceptionReport" reportAttributes ++ '>' ::
    '<' :: (Xml.tagChars "ServiceException" (exceptionAttributes code locator) ++ '>' ::
      (Text.escapeChars message.toList
        ++ (Xml.endTag "ServiceException" ++ Xml.endTag "ServiceExceptionReport"))))

def ServiceError.element (e : ServiceError) : Xml.Element :=
  exceptionElement e.code e.locator? e.message

section

variable {code message : String} {locator : Option String}

theorem exceptionElement_inj {code' message' : String} {locator' : Option String} :
    exceptionElement code locator message = exceptionElement code' locator' message'
      ↔ code = code' ∧ locator = locator' ∧ message = message' := by
  unfold exceptionElement exceptionAttributes
  cases locator <;> cases locator' <;> simp [and_assoc]

private theorem isTag_report : Xml.IsTag "ServiceExceptionReport" reportAttributes where
  name := by decide
  names := by decide
  nodup := by decide

private theorem isTag_exception :
    Xml.IsTag "ServiceException" (exceptionAttributes code locator) := by
  have hnames : ∀ name ∈ ["code", "locator"], Xml.IsName name := by decide
  cases locator with
  | none =>
      refine ⟨by decide, ?_, List.nodup_singleton _⟩
      simpa [exceptionAttributes] using hnames "code"
  | some l =>
      refine ⟨by decide, ?_, by simp [exceptionAttributes]⟩
      simpa [exceptionAttributes] using hnames

theorem isPlainTag_report : Xml.IsPlainTag "ServiceExceptionReport" reportAttributes where
  name := by decide
  names := by decide

theorem isPlainTag_exception :
    Xml.IsPlainTag "ServiceException" (exceptionAttributes code locator) := by
  have hnames : ∀ name ∈ ["code", "locator"], Xml.isPlainName name = true := by decide
  refine ⟨by decide, ?_⟩
  cases locator with
  | none => simpa [exceptionAttributes] using hnames "code"
  | some l => simpa [exceptionAttributes] using hnames

/-! ### Reading the text of a report -/

def exceptionTokens (code : String) (locator : Option String) (message : String) :
    List Xml.Token :=
  [.start "ServiceExceptionReport" reportAttributes,
    .start "ServiceException" (exceptionAttributes code locator), .text message,
    .close "ServiceException", .close "ServiceExceptionReport"]

theorem tokens_exceptionChars (h : message ≠ "") :
    Xml.tokens (exceptionChars code locator message)
      = some (exceptionTokens code locator message) := by
  have hmessage : message.toList ≠ [] := mt String.toList_eq_nil_iff.mp h
  have hclose : Xml.tokens (Xml.endTag "ServiceException" ++ Xml.endTag "ServiceExceptionReport")
      = some [.close "ServiceException", .close "ServiceExceptionReport"] := by
    rw [Xml.endTag_append, Xml.tokens_tag (Xml.readTag_endTag (by decide) _),
      ← List.append_nil (Xml.endTag "ServiceExceptionReport"), Xml.endTag_append,
      Xml.tokens_tag (Xml.readTag_endTag (by decide) _), Xml.tokens]
    rfl
  have htext := Xml.tokens_text hmessage ('/' :: ("ServiceException".toList ++ '>' ::
    Xml.endTag "ServiceExceptionReport"))
  rw [← Xml.endTag_append, hclose, String.ofList_toList] at htext
  rw [exceptionChars, Xml.tokens_tag (Xml.readTag_tagChars isTag_report rfl),
    Xml.tokens_tag (Xml.readTag_tagChars isTag_exception rfl), htext]
  rfl

theorem assemble_exceptionTokens :
    Xml.assemble holdsException (exceptionTokens code locator message)
      = some (exceptionElement code locator message) := by
  have hreport : holdsException "ServiceExceptionReport" = false := by decide
  have hexception : holdsException "ServiceException" = true := by decide
  simp [Xml.assemble, exceptionTokens, Xml.step, Xml.State.inText, Xml.State.add,
    Xml.Frame.element, hreport, hexception, exceptionElement]

private theorem all_isPlain_exceptionTokens :
    (exceptionTokens code locator message).all Xml.Token.isPlain = true := by
  have htag : Xml.IsPlainTag "ServiceException" (exceptionAttributes code locator) :=
    isPlainTag_exception
  have hreport := List.all_eq_true.mpr isPlainTag_report.names
  have hexception := List.all_eq_true.mpr htag.names
  simp only [exceptionTokens, List.all_cons, List.all_nil, Xml.Token.isPlain, hreport, hexception,
    isPlainTag_report.name, htag.name, Bool.and_true]

private theorem map_spaced_exceptionTokens (hcode : Xml.spaced code = code) :
    (exceptionTokens code locator message).map Xml.Token.spaced
      = exceptionTokens code (locator.map Xml.spaced) message := by
  have hreport : (reportAttributes.map fun a => (a.1, Xml.spaced a.2)) = reportAttributes := by
    decide
  have hexception : ((exceptionAttributes code locator).map fun a => (a.1, Xml.spaced a.2))
      = exceptionAttributes code (locator.map Xml.spaced) := by
    unfold exceptionAttributes
    rw [List.map_cons, hcode]
    cases locator <;> rfl
  simp only [exceptionTokens, List.map_cons, List.map_nil, Xml.Token.spaced, hreport, hexception]

private theorem all_exceptionChars : (exceptionChars code locator message).all Xml.isAllowed
    = (code.toList.all Xml.isAllowed && (locator.all fun l => l.toList.all Xml.isAllowed)
      && message.toList.all Xml.isAllowed) := by
  have hends : (Xml.endTag "ServiceException" ++ Xml.endTag "ServiceExceptionReport").all
      Xml.isAllowed = true := by
    decide
  have hmarks : Xml.isAllowed '<' = true ∧ Xml.isAllowed '>' = true := by decide
  have hreport : (reportAttributes.all fun a => a.2.toList.all Xml.isAllowed) = true := by
    decide
  rw [exceptionChars]
  simp only [List.all_cons, List.all_append, Xml.all_tagChars isPlainTag_report,
    Xml.all_tagChars isPlainTag_exception, Xml.all_escapeChars, hends, hmarks, hreport]
  cases locator <;> simp [exceptionAttributes, Bool.and_assoc]

private theorem lineEnds_exceptionChars : Xml.lineEnds (exceptionChars code locator message)
    = exceptionChars (Xml.passedText code) (locator.map Xml.passedText)
        (Xml.passedText message) := by
  have hends : '\r' ∉ Xml.endTag "ServiceException" ++ Xml.endTag "ServiceExceptionReport" := by
    decide
  have hreport : Xml.passedAttributes reportAttributes = reportAttributes := by decide
  have hexception : Xml.passedAttributes (exceptionAttributes code locator)
      = exceptionAttributes (Xml.passedText code) (locator.map Xml.passedText) := by
    cases locator <;> rfl
  have hhead : (Xml.endTag "ServiceException" ++ Xml.endTag "ServiceExceptionReport").head?
      ≠ some '\n' := by
    decide
  rw [exceptionChars, Xml.lineEnds_cons (by decide), Xml.lineEnds_tagChars isPlainTag_report,
    Xml.lineEnds_cons (by decide), Xml.lineEnds_cons (by decide),
    Xml.lineEnds_tagChars isPlainTag_exception, Xml.lineEnds_cons (by decide),
    Xml.lineEnds_escapeChars_append hhead, Xml.lineEnds_eq_self_iff.mpr hends, hreport, hexception,
    exceptionChars, Xml.passedText, Xml.passedText, String.toList_ofList]

private theorem closesSection_exceptionChars :
    Xml.closesSection (exceptionChars code locator message) = false := by
  have hone (c : Char) (cs : List Char) (hc : c ≠ ']') :
      Xml.closesSection (c :: cs) = Xml.closesSection cs := by
    rw [Xml.closesSection, decide_eq_false hc, Bool.false_and, Bool.false_or]
  rw [exceptionChars, hone _ _ (by decide), Xml.closesSection_tagChars isPlainTag_report,
    hone _ _ (by decide), hone _ _ (by decide), Xml.closesSection_tagChars isPlainTag_exception,
    hone _ _ (by decide), Xml.closesSection_escapeChars_append (by decide)]
  decide

end

/-! ### Errors -/

namespace ServiceError

variable (e : ServiceError)

theorem message_ne_empty : e.message ≠ "" := by
  unfold message
  split
  all_goals simp only [ne_eq, String.append_eq_empty_iff, String.reduceEq, false_and,
    not_false_eq_true]

def codes : List String :=
  ["MissingParameterValue", "InvalidParameterValue", "LayerNotDefined", "StyleNotDefined",
    "NoApplicableCode"]

theorem code_mem_codes : e.code ∈ codes := by
  cases e <;> simp [code, codes]

private theorem escapeChars_code : Text.escapeChars e.code.toList = e.code.toList := by
  have hcodes : ∀ code ∈ codes, Text.escapeChars code.toList = code.toList := by decide
  exact hcodes e.code e.code_mem_codes

private theorem toList_locator (l : String) : (" locator=\"" ++ Text.escape l ++ "\"").toList
    = [("locator", l)].flatMap Xml.attributeChars := by
  have hname : " locator=\"".toList = ' ' :: ("locator".toList ++ ['=', '"']) := by decide
  rw [String.toList_append, String.toList_append, hname, Text.escape,
    String.toList_ofList (l := Text.escapeChars _), List.flatMap_singleton, Xml.attributeChars]
  simp only [List.append_assoc, List.cons_append, List.nil_append, -String.reduceToList]
  rfl

theorem report_toList :
    e.report.toList = Xml.declaration ++ exceptionChars e.code e.locator? e.message := by
  have hopen : "<?xml version=\"1.0\" encoding=\"UTF-8\"?>".toList
      ++ ("<ServiceExceptionReport version=\"1.3.0\" xmlns=\"http://www.opengis.net/ogc\">".toList
        ++ "<ServiceException code=\"".toList)
      = Xml.declaration ++ '<' :: (Xml.tagChars "ServiceExceptionReport" reportAttributes ++ '>' ::
        '<' :: ("ServiceException".toList ++ ' ' :: ("code".toList ++ ['=', '"']))) := by
    decide
  have hclose : "</ServiceException>".toList ++ "</ServiceExceptionReport>".toList
      = Xml.endTag "ServiceException" ++ Xml.endTag "ServiceExceptionReport" := by
    decide
  obtain ⟨locator, hlocator, hreport⟩ : ∃ locator : String,
      locator.toList = (e.locator?.map fun l => ("locator", l)).toList.flatMap Xml.attributeChars
      ∧ e.report = "<?xml version=\"1.0\" encoding=\"UTF-8\"?>"
        ++ "<ServiceExceptionReport version=\"1.3.0\" xmlns=\"http://www.opengis.net/ogc\">"
        ++ "<ServiceException code=\"" ++ e.code ++ "\"" ++ locator ++ ">" ++ Text.escape e.message
        ++ "</ServiceException>" ++ "</ServiceExceptionReport>" := by
    unfold report
    cases e.locator? with
    | none => exact ⟨"", rfl, rfl⟩
    | some l => exact ⟨_, toList_locator l, rfl⟩
  have hchars : e.report.toList = "<?xml version=\"1.0\" encoding=\"UTF-8\"?>".toList
      ++ ("<ServiceExceptionReport version=\"1.3.0\" xmlns=\"http://www.opengis.net/ogc\">".toList
        ++ "<ServiceException code=\"".toList)
      ++ (e.code.toList ++ ("\"".toList ++ (locator.toList ++ (">".toList
      ++ ((Text.escape e.message).toList
      ++ ("</ServiceException>".toList ++ "</ServiceExceptionReport>".toList)))))) := by
    rw [hreport]
    simp only [String.toList_append, List.append_assoc, -String.reduceToList]
  rw [hchars, hopen, hclose, hlocator, Text.escape, String.toList_ofList (l := Text.escapeChars _),
    exceptionChars, Xml.tagChars, Xml.tagChars, exceptionAttributes, List.flatMap_cons,
    Xml.attributeChars, escapeChars_code]
  simp only [List.append_assoc, List.cons_append, List.nil_append, -String.reduceToList]
  rfl

private theorem read_report : Xml.read holdsException e.report = some e.element := by
  have hafter : Xml.afterDeclaration e.report.toList
      = exceptionChars e.code e.locator? e.message := by
    rw [report_toList, Xml.afterDeclaration_append]
  rw [Xml.read_eq, hafter, tokens_exceptionChars e.message_ne_empty, Option.bind_some,
    assemble_exceptionTokens, element]

/-- All that a report says is said in characters that XML allows. -/
def isAllowed : Bool :=
  e.message.toList.all Xml.isAllowed && e.locator?.all fun l => l.toList.all Xml.isAllowed

private theorem all_report : e.report.toList.all Xml.isAllowed = e.isAllowed := by
  have hcodes : ∀ code ∈ codes, code.toList.all Xml.isAllowed = true := by decide
  have hdeclaration : Xml.declaration.all Xml.isAllowed = true := by decide
  rw [report_toList, List.all_append, hdeclaration, all_exceptionChars,
    hcodes e.code e.code_mem_codes, isAllowed, Bool.true_and, Bool.true_and, Bool.and_comm]

private theorem closesSection_report : Xml.closesSection e.report.toList = false := by
  rw [report_toList, Xml.closesSection_append_of_notMem (by decide), closesSection_exceptionChars]

private theorem passedTokens_report :
    Xml.tokens (Xml.lineEnds (exceptionChars e.code e.locator? e.message))
    = some (exceptionTokens e.code (e.locator?.map Xml.passedText) (Xml.passedText e.message)) := by
  have hcodes : ∀ code ∈ codes, Xml.passedText code = code := by decide
  rw [lineEnds_exceptionChars, hcodes e.code e.code_mem_codes,
    tokens_exceptionChars (Xml.passedText_ne_empty e.message_ne_empty)]

/-- A processor refuses a report with a character that XML forbids, and passes any other one on but
for line ends and the white space of its parameter. -/
theorem process_report : Xml.process holdsException e.report
    = if e.isAllowed then some (exceptionElement e.code
        (e.locator?.map fun l => Xml.spaced (Xml.passedText l)) (Xml.passedText e.message))
      else none := by
  have hcodes : ∀ code ∈ codes, Xml.spaced code = code := by decide
  have hprefix : Xml.declaration.isPrefixOf e.report.toList = true := by
    rw [List.isPrefixOf_iff_prefix, report_toList]
    exact List.prefix_append _ _
  have hdrop : e.report.toList.drop Xml.declaration.length
      = exceptionChars e.code e.locator? e.message := by
    rw [report_toList, List.drop_left]
  rw [Xml.process, all_report, hprefix, closesSection_report, hdrop, passedTokens_report,
    Option.filter_some, if_pos all_isPlain_exceptionTokens, Option.bind_some,
    map_spaced_exceptionTokens (hcodes e.code e.code_mem_codes), assemble_exceptionTokens,
    Option.map_map, Bool.not_false, Bool.and_true, Bool.and_true]
  rfl

/-- A processor reads from a report what its error says exactly when XML allows every character of
it, the message has no carriage return, and the parameter no white space other than spaces. -/
theorem process_report_eq_some_iff : Xml.process holdsException e.report = some e.element
    ↔ e.isAllowed = true ∧ '\r' ∉ e.message.toList
      ∧ ∀ l ∈ e.locator?, ∀ c ∈ l.toList, Xml.isSpace c = true → c = ' ' := by
  have hlocator : (e.locator?.map fun l => Xml.spaced (Xml.passedText l)) = e.locator?
      ↔ ∀ l ∈ e.locator?, ∀ c ∈ l.toList, Xml.isSpace c = true → c = ' ' := by
    simp only [← Xml.spaced_passedText_eq_self_iff]
    cases e.locator? with
    | none => simp
    | some l => simp
  rw [process_report]
  split
  case isTrue hallowed =>
      rw [Option.some.injEq, element, exceptionElement_inj, hlocator, Xml.passedText_eq_self_iff]
      simp only [hallowed, true_and]
      exact and_comm
  case isFalse hallowed => simp [hallowed]

end ServiceError

/-! ### Errors of queries -/

namespace Publisher

variable {p : Publisher} {r : Request} {e : ServiceError}

private theorem locator_of_refuses (h : p.catalog.Refuses r e) :
    ∃ f : Parameter, e.locator? = some (Text.lower f.name) := by
  cases h with
  | layer => exact ⟨.layers, congrArg some (by decide)⟩
  | style => exact ⟨.styles, congrArg some (by decide)⟩
  | empty => exact ⟨.layers, rfl⟩

private theorem body_eq_error_iff {form : Form} :
    p.body r form = .error e ↔ p.catalog.Refuses r e := by
  cases form with
  | markup => exact map_eq_error_iff.trans document_eq_error_iff
  | page => exact preview_eq_error_iff_document.trans document_eq_error_iff
  | json => exact map_eq_error_iff.trans document_eq_error_iff

theorem locator_of_answer_eq_error {query : String} {workspace : Option String}
    {form : Option Form} (h : p.answer query workspace form = .error e) :
    ∃ f : Parameter, e.locator? = some (Text.lower f.name) := by
  rw [answer, bind_eq_error_iff] at h
  rcases h with h | ⟨parameters, _, h⟩
  · rw [Parameters.read_eq] at h
    cases h
  rcases bind_eq_error_iff.mp h with h | ⟨asked, _, h⟩
  · obtain ⟨_, f, _, hcheck, _⟩ := Parameters.toRequest_eq_error_iff.mp h
    exact ⟨f, (Parameters.complains_of_check hcheck).locator⟩
  rcases bind_eq_error_iff.mp h with h | ⟨body, _, h⟩
  · exact locator_of_refuses (body_eq_error_iff.mp h)
  · cases h

private theorem lower_name_isPlain (f : Parameter) :
    (Text.lower f.name).toList.all Xml.isPlainChar = true := by
  have hascii : ∀ c ∈ f.name.toList, c.toNat < 128 := by
    have hall : (f.name.toList.all fun c => c.toNat < 128) = true := by cases f <;> decide
    simpa [List.all_eq_true] using hall
  rw [Text.lower, String.toList_ofList, Text.lowerChars, Text.lowerFrom_of_ascii hascii]
  cases f <;> decide

private theorem process_report_of_answer {query : String} {workspace : Option String}
    {form : Option Form} (h : p.answer query workspace form = .error e) :
    Xml.process holdsException e.report = some e.element
      ↔ ∀ c ∈ e.message.toList, Xml.isAllowed c = true ∧ c ≠ '\r' := by
  obtain ⟨f, hlocator⟩ := locator_of_answer_eq_error h
  have hplain := List.all_eq_true.mp (lower_name_isPlain f)
  have hallowed : (Text.lower f.name).toList.all Xml.isAllowed = true :=
    List.all_eq_true.mpr fun c hc => Xml.isAllowed_of_isPlainChar (hplain c hc)
  have hspace : ∀ c ∈ (Text.lower f.name).toList, Xml.isSpace c = true → c = ' ' := by
    intro c hc hspace
    have hname := Xml.isSpace_of_isPlainChar (hplain c hc)
    rw [hspace] at hname
    cases hname
  rw [ServiceError.process_report_eq_some_iff, ServiceError.isAllowed, hlocator, Option.all_some,
    hallowed, Bool.and_true, List.all_eq_true]
  simp only [Option.mem_some_iff, forall_eq', forall_and]
  constructor
  · intro ⟨hmessage, hreturn, _⟩
    refine ⟨hmessage, ?_⟩
    rintro _ hc rfl
    exact hreturn hc
  · intro ⟨hmessage, hreturn⟩
    exact ⟨hmessage, fun hmem => hreturn _ hmem rfl, hspace⟩

end Publisher

/-- **What is read in an exception report.** A report is read as the exception that its error says,
by a processor exactly when it has neither a forbidden character, nor a carriage return, nor white
space but spaces in its parameter. -/
theorem ServiceError.report_isRead (e : ServiceError) :
    Xml.read holdsException e.report = some e.element
    ∧ Xml.process holdsException e.report
      = (if e.isAllowed then some (exceptionElement e.code
          (e.locator?.map fun l => Xml.spaced (Xml.passedText l)) (Xml.passedText e.message))
        else none)
    ∧ (Xml.process holdsException e.report = some e.element
      ↔ e.isAllowed = true ∧ '\r' ∉ e.message.toList
        ∧ ∀ l ∈ e.locator?, ∀ c ∈ l.toList, Xml.isSpace c = true → c = ' ')
    ∧ ∀ (p : Publisher) (query : String) (workspace : Option String) (form : Option Form),
      p.answer query workspace form = .error e →
      (∃ f : Parameter, e.locator? = some (Text.lower f.name))
      ∧ (Xml.process holdsException e.report = some e.element
        ↔ ∀ c ∈ e.message.toList, Xml.isAllowed c = true ∧ c ≠ '\r') := by
  refine ⟨e.read_report, e.process_report, e.process_report_eq_some_iff, ?_⟩
  intro p query workspace form h
  exact ⟨Publisher.locator_of_answer_eq_error h, Publisher.process_report_of_answer h⟩

theorem ServiceError.report_isRead_markup : ∃ (p : Publisher) (query : String) (e : ServiceError),
    p.answer query none none = .error e
      ∧ e.message = "Could not find layer <Lakes> & \"Roads\""
      ∧ Xml.process holdsException e.report
        = some (exceptionElement "LayerNotDefined" (some "layers") e.message) := by
  let p : Publisher := { catalog := ⟨[]⟩, service := {} }
  let query := "LAYERS=%3CLakes%3E+%26+%22Roads%22&CRS=OSMTILE&WIDTH=10&HEIGHT=10"
  let e : ServiceError := .layerNotDefined "<Lakes> & \"Roads\""
  have hanswer : p.answer query none none = .error e :=
    map_eq_error_iff (f := Answer.mediaType).mp (by decide +kernel)
  obtain ⟨_, _, _, hanswered⟩ := ServiceError.report_isRead e
  have hmessage : (e.message.toList.all fun c => Xml.isAllowed c && c != '\r') = true := by decide
  obtain ⟨_, hread⟩ := hanswered p query none none hanswer
  refine ⟨p, query, e, hanswer, by decide, hread.mpr ?_⟩
  simpa [List.all_eq_true] using hmessage

/-- The name of a layer can bring a character that XML forbids, and one that is not passed on. -/
theorem ServiceError.report_unreadable : ∃ (p : Publisher) (query query' : String)
    (e e' : ServiceError), p.answer query none none = .error e
      ∧ Xml.process holdsException e.report = none
      ∧ p.answer query' none none = .error e'
      ∧ e'.message = "Could not find layer Lakes\rRoads"
      ∧ Xml.process holdsException e'.report
        = some (exceptionElement e'.code e'.locator? "Could not find layer Lakes\nRoads") := by
  let p : Publisher := { catalog := ⟨[]⟩, service := {} }
  have hforbidden : (p.answer "LAYERS=Lakes%01&CRS=OSMTILE&WIDTH=10&HEIGHT=10" none none).map
      Answer.mediaType = .error (.layerNotDefined "Lakes\x01") := by
    decide +kernel
  have hreturn : (p.answer "LAYERS=Lakes%0DRoads&CRS=OSMTILE&WIDTH=10&HEIGHT=10" none none).map
      Answer.mediaType = .error (.layerNotDefined "Lakes\rRoads") := by
    decide +kernel
  refine ⟨p, _, _, _, _, map_eq_error_iff.mp hforbidden, ?_, map_eq_error_iff.mp hreturn,
    by decide, ?_⟩
  · rw [process_report, if_neg (by decide)]
  · rw [process_report, if_pos (by decide), Option.some.injEq, exceptionElement_inj]
    decide

end MapMarkup
