import WorkflowRules.Text.Blank
import WorkflowRules.Text.Case

/-! Entities that rules can target, and their fields. -/
namespace WorkflowRules

inductive Entity where
  | account
  | contact
  | opportunity
  | invoice
  | subscription
deriving DecidableEq

namespace Entity

def all : List Entity :=
  [.account, .contact, .opportunity, .invoice, .subscription]

def name : Entity → String
  | .account => "account"
  | .contact => "contact"
  | .opportunity => "opportunity"
  | .invoice => "invoice"
  | .subscription => "subscription"

/-- In the order in which they are shown. -/
def fields : Entity → List String
  | .account =>
    ["status", "name", "industry", "owner_id", "annual_revenue", "employee_count",
      "billing_country", "created_at", "updated_at"]
  | .contact =>
    ["status", "first_name", "last_name", "email", "phone", "account_id", "owner_id",
      "created_at"]
  | .opportunity =>
    ["status", "stage", "amount", "currency", "probability", "close_date", "account_id",
      "owner_id", "created_at"]
  | .invoice =>
    ["status", "number", "total", "balance_due", "currency", "due_date", "issued_at",
      "account_id", "legal_entity_id"]
  | .subscription =>
    ["status", "plan_id", "quantity", "billing_period", "current_period_end",
      "renewal_date", "cancel_at_period_end", "account_id"]

/-- Blanks around the name and its case do not matter. -/
def parse (text : String) : Except String Entity :=
  let lower := Text.lower (Text.trim text)
  match all.find? (·.name == lower) with
  | some entity => .ok entity
  | none =>
    .error ("unknown entity type '" ++ lower ++ "'; supported values are " ++
      ", ".intercalate (all.map name))

end Entity

end WorkflowRules
