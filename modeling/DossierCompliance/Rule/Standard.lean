import DossierCompliance.Rule.Document

/-!
The standard rule document: what a dossier needs for each change of status
beyond the regulatory checks. The text of the document is loaded like any other;
it is cut into pieces that are short enough for a line.
-/

namespace DossierCompliance.RuleDocument

def enrolmentRules : List Rule :=
  [ { id := "ENROLLMENT_LEARNER_EMAIL"
      description := "A learner must be reachable before enrolment."
      trigger := ⟨.enrolled⟩
      severity := .blocking
      message := "The learner has no email address."
      condition := .single ⟨"learner.email", .equals, none⟩ },
    { id := "ENROLLMENT_CERTIFICATION_CODE"
      description := "Certifying programmes should reference their RNCP/RS code."
      trigger := ⟨.enrolled⟩
      severity := .warning
      message := "The programme has no certification code; the dossier will not be CPF-eligible."
      condition := .single ⟨"session.programme.certification.code", .equals, none⟩ } ]

def trainingRules : List Rule :=
  [ { id := "CONTRACT_REQUIRED_BEFORE_TRAINING"
      description := "Training cannot start without a signed agreement."
      trigger := ⟨.inTraining⟩
      severity := .blocking
      message := "A signed training contract is required before training starts."
      condition := .single ⟨"has_signed_contract", .isFalse, none⟩ },
    { id := "SESSION_REQUIRED_BEFORE_TRAINING"
      description := "Training cannot start outside a scheduled session."
      trigger := ⟨.inTraining⟩
      severity := .blocking
      message := "The dossier is not attached to a training session."
      condition := .single ⟨"session", .equals, none⟩ } ]

def completionRules : List Rule :=
  [ { id := "ATTENDANCE_MINIMUM_COMPLETION"
      description := "Completion requires 80% attendance of scheduled hours."
      trigger := ⟨.completed⟩
      severity := .blocking
      message := "Attendance rate is below the 80% required to complete the training."
      condition := .also ⟨"attendance_rate", .less, (some (.number 80))⟩ <|
        .single ⟨"hours_scheduled", .greater, (some (.number 0))⟩ },
    { id := "ATTENDANCE_ABSENCE_PROOF"
      description := "Absences should be backed by a justification."
      trigger := ⟨.completed⟩
      severity := .warning
      message := "Absences were recorded but no justification proof was uploaded."
      condition := .also ⟨"attendance_rate", .less, (some (.number 100))⟩ <|
        .also ⟨"hours_scheduled", .greater, (some (.number 0))⟩ <|
        .single ⟨"has_justified_absence_proof", .isFalse, none⟩ } ]

def invoiceRules : List Rule :=
  [ { id := "CONTRACT_REQUIRED_BEFORE_INVOICE"
      description := "Invoices must reference a signed contract."
      trigger := ⟨.invoiced⟩
      severity := .blocking
      message := "A signed contract is required before invoicing."
      condition := .single ⟨"has_signed_contract", .isFalse, none⟩ },
    { id := "ATTENDANCE_SHEETS_BEFORE_INVOICE"
      description := "Financers pay on attendance sheets."
      trigger := ⟨.invoiced⟩
      severity := .blocking
      message := "No attendance has been recorded for this dossier."
      condition := .single ⟨"attendance.date", .equals, none⟩ },
    { id := "CPF_INVOICE_ATTENDANCE"
      description := "CPF pays pro rata of attendance."
      trigger := ⟨.invoiced⟩
      severity := .warning
      message := "CPF-funded dossier with incomplete attendance: the invoice will be prorated."
      condition := .also ⟨"funding_channel", .equals, (some (.text "CPF"))⟩ <|
        .single ⟨"attendance_rate", .less, (some (.number 100))⟩ } ]

def closureRules : List Rule :=
  [ { id := "CLOSURE_ATTENDANCE_MINIMUM"
      description := "Closing requires 80% attendance."
      trigger := ⟨.closed⟩
      severity := .blocking
      message := "Attendance rate is below the 80% required to close the dossier."
      condition := .single ⟨"attendance_rate", .less, (some (.number 80))⟩ },
    { id := "CLOSURE_CONTRACT_SIGNED"
      description := "Closed dossiers must carry a signed contract."
      trigger := ⟨.closed⟩
      severity := .blocking
      message := "The dossier cannot be closed without a signed contract."
      condition := .single ⟨"has_signed_contract", .isFalse, none⟩ },
    { id := "CLOSURE_CERTIFICATE"
      description := "A completion certificate must be issued before closing."
      trigger := ⟨.closed⟩
      severity := .blocking
      message := "The completion certificate has not been generated."
      condition := .single ⟨"certificate_generated", .isFalse, none⟩ } ]

def cancellationRules : List Rule :=
  [ { id := "CANCELLATION_AFTER_INVOICE"
      description := "Cancelling an invoiced dossier requires a credit note."
      trigger := ⟨.cancelled⟩
      severity := .warning
      message := "The dossier has already been invoiced: issue a credit note to the financer."
      condition := .single ⟨"status", .equals, (some (.text "INVOICED"))⟩ } ]

def standard : RuleDocument where
  version := some "2026.1"
  rules := enrolmentRules ++ trainingRules ++ completionRules ++ invoiceRules ++
    closureRules ++ cancellationRules

/-! ### The text -/

def enrolmentText : List String :=
  ["    \x7b\n",
   "      \"id\": \"ENROLLMENT_LEARNER_EMAIL\",\n",
   "      \"description\": \"A learner must be reachable before enrolment.\",\n",
   "      \"trigger\": \"TO_ENROLLED\",\n",
   "      \"severity\": \"BLOCKING\",\n",
   "      \"message\": \"The learner has no email address.\",\n",
   "      \"logic\": \x7b \"field\": \"learner.email\", \"operator\": \"EQUALS\", ",
   "\"value\": null \x7d\n",
   "    \x7d,\n",
   "    \x7b\n",
   "      \"id\": \"ENROLLMENT_CERTIFICATION_CODE\",\n",
   "      \"description\": \"Certifying programmes should reference their RNCP/RS code.\",\n",
   "      \"trigger\": \"TO_ENROLLED\",\n",
   "      \"severity\": \"WARNING\",\n",
   "      \"message\": \"The programme has no certification code; the ",
   "dossier will not be CPF-eligible.\",\n",
   "      \"logic\": \x7b \"field\": \"session.programme.certification.code\", ",
   "\"operator\": \"EQUALS\", \"value\": null \x7d\n",
   "    \x7d,\n"]

def trainingText : List String :=
  ["    \x7b\n",
   "      \"id\": \"CONTRACT_REQUIRED_BEFORE_TRAINING\",\n",
   "      \"description\": \"Training cannot start without a signed agreement.\",\n",
   "      \"trigger\": \"TO_IN_TRAINING\",\n",
   "      \"severity\": \"BLOCKING\",\n",
   "      \"message\": \"A signed training contract is required before training starts.\",\n",
   "      \"logic\": \x7b \"field\": \"has_signed_contract\", \"operator\": \"IS_FALSE\" \x7d\n",
   "    \x7d,\n",
   "    \x7b\n",
   "      \"id\": \"SESSION_REQUIRED_BEFORE_TRAINING\",\n",
   "      \"description\": \"Training cannot start outside a scheduled session.\",\n",
   "      \"trigger\": \"TO_IN_TRAINING\",\n",
   "      \"severity\": \"BLOCKING\",\n",
   "      \"message\": \"The dossier is not attached to a training session.\",\n",
   "      \"logic\": \x7b \"field\": \"session\", \"operator\": \"EQUALS\", \"value\": null \x7d\n",
   "    \x7d,\n"]

def completionText : List String :=
  ["    \x7b\n",
   "      \"id\": \"ATTENDANCE_MINIMUM_COMPLETION\",\n",
   "      \"description\": \"Completion requires 80% attendance of scheduled hours.\",\n",
   "      \"trigger\": \"TO_COMPLETED\",\n",
   "      \"severity\": \"BLOCKING\",\n",
   "      \"message\": \"Attendance rate is below the 80% required to complete the training.\",\n",
   "      \"logic\": \x7b\n",
   "        \"field\": \"attendance_rate\",\n",
   "        \"operator\": \"LT\",\n",
   "        \"value\": 80,\n",
   "        \"additionalCheck\": \x7b \"field\": \"hours_scheduled\", \"operator\": ",
   "\"GT\", \"value\": 0 \x7d\n",
   "      \x7d\n",
   "    \x7d,\n",
   "    \x7b\n",
   "      \"id\": \"ATTENDANCE_ABSENCE_PROOF\",\n",
   "      \"description\": \"Absences should be backed by a justification.\",\n",
   "      \"trigger\": \"TO_COMPLETED\",\n",
   "      \"severity\": \"WARNING\",\n",
   "      \"message\": \"Absences were recorded but no justification proof was uploaded.\",\n",
   "      \"logic\": \x7b\n",
   "        \"field\": \"attendance_rate\",\n",
   "        \"operator\": \"LT\",\n",
   "        \"value\": 100,\n",
   "        \"additionalCheck\": \x7b\n",
   "          \"field\": \"hours_scheduled\",\n",
   "          \"operator\": \"GT\",\n",
   "          \"value\": 0,\n",
   "          \"additionalCheck\": \x7b \"field\": \"has_justified_absence_proof\", ",
   "\"operator\": \"IS_FALSE\" \x7d\n",
   "        \x7d\n",
   "      \x7d\n",
   "    \x7d,\n"]

def invoiceText : List String :=
  ["    \x7b\n",
   "      \"id\": \"CONTRACT_REQUIRED_BEFORE_INVOICE\",\n",
   "      \"description\": \"Invoices must reference a signed contract.\",\n",
   "      \"trigger\": \"TO_INVOICED\",\n",
   "      \"severity\": \"BLOCKING\",\n",
   "      \"message\": \"A signed contract is required before invoicing.\",\n",
   "      \"logic\": \x7b \"field\": \"has_signed_contract\", \"operator\": \"IS_FALSE\" \x7d\n",
   "    \x7d,\n",
   "    \x7b\n",
   "      \"id\": \"ATTENDANCE_SHEETS_BEFORE_INVOICE\",\n",
   "      \"description\": \"Financers pay on attendance sheets.\",\n",
   "      \"trigger\": \"TO_INVOICED\",\n",
   "      \"severity\": \"BLOCKING\",\n",
   "      \"message\": \"No attendance has been recorded for this dossier.\",\n",
   "      \"logic\": \x7b \"field\": \"attendance.date\", \"operator\": \"EQUALS\", ",
   "\"value\": null \x7d\n",
   "    \x7d,\n",
   "    \x7b\n",
   "      \"id\": \"CPF_INVOICE_ATTENDANCE\",\n",
   "      \"description\": \"CPF pays pro rata of attendance.\",\n",
   "      \"trigger\": \"TO_INVOICED\",\n",
   "      \"severity\": \"WARNING\",\n",
   "      \"message\": \"CPF-funded dossier with incomplete attendance: ",
   "the invoice will be prorated.\",\n",
   "      \"logic\": \x7b\n",
   "        \"field\": \"funding_channel\",\n",
   "        \"operator\": \"EQUALS\",\n",
   "        \"value\": \"CPF\",\n",
   "        \"additionalCheck\": \x7b \"field\": \"attendance_rate\", \"operator\": ",
   "\"LT\", \"value\": 100 \x7d\n",
   "      \x7d\n",
   "    \x7d,\n"]

def closureText : List String :=
  ["    \x7b\n",
   "      \"id\": \"CLOSURE_ATTENDANCE_MINIMUM\",\n",
   "      \"description\": \"Closing requires 80% attendance.\",\n",
   "      \"trigger\": \"TO_CLOSED\",\n",
   "      \"severity\": \"BLOCKING\",\n",
   "      \"message\": \"Attendance rate is below the 80% required to close the dossier.\",\n",
   "      \"logic\": \x7b \"field\": \"attendance_rate\", \"operator\": \"LT\", ",
   "\"value\": 80 \x7d\n",
   "    \x7d,\n",
   "    \x7b\n",
   "      \"id\": \"CLOSURE_CONTRACT_SIGNED\",\n",
   "      \"description\": \"Closed dossiers must carry a signed contract.\",\n",
   "      \"trigger\": \"TO_CLOSED\",\n",
   "      \"severity\": \"BLOCKING\",\n",
   "      \"message\": \"The dossier cannot be closed without a signed contract.\",\n",
   "      \"logic\": \x7b \"field\": \"has_signed_contract\", \"operator\": \"IS_FALSE\" \x7d\n",
   "    \x7d,\n",
   "    \x7b\n",
   "      \"id\": \"CLOSURE_CERTIFICATE\",\n",
   "      \"description\": \"A completion certificate must be issued before closing.\",\n",
   "      \"trigger\": \"TO_CLOSED\",\n",
   "      \"severity\": \"BLOCKING\",\n",
   "      \"message\": \"The completion certificate has not been generated.\",\n",
   "      \"logic\": \x7b \"field\": \"certificate_generated\", \"operator\": \"IS_FALSE\" \x7d\n",
   "    \x7d,\n"]

def cancellationText : List String :=
  ["    \x7b\n",
   "      \"id\": \"CANCELLATION_AFTER_INVOICE\",\n",
   "      \"description\": \"Cancelling an invoiced dossier requires a credit note.\",\n",
   "      \"trigger\": \"TO_CANCELLED\",\n",
   "      \"severity\": \"WARNING\",\n",
   "      \"message\": \"The dossier has already been invoiced: issue ",
   "a credit note to the financer.\",\n",
   "      \"logic\": \x7b \"field\": \"status\", \"operator\": \"EQUALS\", \"value\": ",
   "\"INVOICED\" \x7d\n",
   "    \x7d\n"]

/-- The standard rules as they are written down, piece by piece. -/
def standardPieces : List String :=
  ["\x7b\n",
   "  \"version\": \"2026.1\",\n",
   "  \"rules\": [\n"]
    ++ enrolmentText ++ trainingText ++ completionText ++ invoiceText ++ closureText
    ++ cancellationText ++ ["  ]\n", "\x7d\n"]

def standardText : String :=
  String.ofList (standardPieces.flatMap String.toList)

end DossierCompliance.RuleDocument
