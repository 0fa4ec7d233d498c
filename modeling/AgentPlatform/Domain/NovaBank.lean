import Mathlib.Data.Rat.Defs

/-! # Synthetic NovaBank records -/

namespace AgentPlatform.Domain

structure Customer where
  customerId : String
  displayName : String
  contactPreference : String
  maskedEmail : String
deriving DecidableEq, Repr

structure Account where
  accountId : String
  customerId : String
  accountType : String
  status : String
  currency : String
deriving DecidableEq, Repr

structure Transaction where
  transactionId : String
  customerId : String
  accountId : String
  amount : Rat
  currency : String
  status : String
  paymentRoute : String
  failureReason : Option String
deriving DecidableEq, Repr

structure NovaBankRepository where
  customers : List Customer
  accounts : List Account
  transactions : List Transaction

namespace NovaBankRepository

variable (repository : NovaBankRepository)

def getCustomer (customerId : String) : Option Customer :=
  repository.customers.find? fun item => item.customerId = customerId

def getCustomerAccounts (customerId : String) : List Account :=
  repository.accounts.filter fun item => item.customerId = customerId

def getTransaction (transactionId : String) : Option Transaction :=
  repository.transactions.find? fun item => item.transactionId = transactionId

end NovaBankRepository

def customers : List Customer :=
  [⟨"CUST-1098", "Avery Morgan", "email", "a***@example.test"⟩,
    ⟨"CUST-2042", "Jordan Ellis", "sms", "j***@example.test"⟩]

def accounts : List Account :=
  [⟨"ACCT-2001", "CUST-1098", "current", "active", "GBP"⟩, ⟨"ACCT-2002", "CUST-1098", "savings", "active", "GBP"⟩,
    ⟨"ACCT-3100", "CUST-2042", "current", "active", "GBP"⟩]

def transactions : List Transaction :=
  [⟨"TXN-5001", "CUST-1098", "ACCT-2001", 2500, "GBP", "delayed", "Faster Payments",
      some "Beneficiary bank acknowledgement timeout"⟩,
    ⟨"TXN-5002", "CUST-1098", "ACCT-2001", 85 / 2, "GBP", "completed", "Faster Payments", none⟩,
    ⟨"TXN-6100", "CUST-2042", "ACCT-3100", 125, "GBP", "failed", "CHAPS", some "Invalid beneficiary details"⟩]

def novaBank : NovaBankRepository := ⟨customers, accounts, transactions⟩

end AgentPlatform.Domain
