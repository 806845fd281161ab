import SqlVocabulary.Vendor.Draft

/-!
# The built-in table

The vendors that the library knows by itself. Only the standard is not skipped: its vocabulary comes
from a grammar and needs no markup reader.
-/

namespace SqlVocabulary

namespace TableDraft

/-- The address of the foundation grammar of SQL:2011. -/
def foundationGrammar : Text :=
  ("https://raw.githubusercontent.com/apla/sql-overview/master/" ++
    "sql-2011-foundation-grammar.txt").toList

/-- The address of the library of Db2 for z/OS. -/
def db2Library : String :=
  "https://www.ibm.com/support/knowledgecenter/en/SSEPEK_11.0.0/sqlref/src/tpc/"

def db2 : VendorDraft where
  skip := true
  commands := some
    { urls := [(db2Library ++ "db2z_sqlstatementslist.html?view=embed").toList]
      selectors := ["#db2z_sqlstatementslist__summsl a".toList]
      pattern := some r"^(.*?)\s*(?:\(|$)".toList }
  keywords := some
    { urls := [(db2Library ++ "db2z_reservedwords.html?view=embed").toList]
      selectors := [".sli".toList] }

/-- The address of the SQL reference of Oracle Database. -/
def oracleReference : String := "https://docs.oracle.com/database/121/SQLRF/"

/-- Oracle Database. A star after a keyword marks what is reserved in the standard as well. -/
def oracle : VendorDraft where
  skip := true
  commands := some
    { urls := ["statements_1.htm#SQLRF008", "statements_2.htm#SQLRF009",
        "statements_3.htm#SQLRF010", "statements_4.htm#SQLRF011", "statements_5.htm#SQLRF012",
        "statements_6.htm#SQLRF013", "statements_7.htm#SQLRF014", "statements_8.htm#SQLRF015",
        "statements_9.htm#SQLRF016", "statements_10.htm#SQLRF017"].map fun page =>
          (oracleReference ++ page).toList
      selectors := ["ul li a".toList]
      pattern := some r"^(.*?)\s*(?:\(|$)".toList }
  keywords := some
    { urls := [(oracleReference ++ "ap_keywd001.htm#SQLRF55621").toList]
      selectors := [".sect1>code".toList]
      pattern := some r"^(.*?)\s*(?:\*|$)".toList }

/-- The address of the reference manual of MySQL. -/
def mysqlManual : String := "https://dev.mysql.com/doc/refman/5.7/en/"

def mysql : VendorDraft where
  skip := true
  commands := some
    { urls := ["sql-syntax-data-definition", "sql-syntax-data-manipulation",
        "sql-syntax-transactions", "sql-syntax-replication", "sql-syntax-prepared-statements",
        "sql-syntax-compound-statements", "sql-syntax-server-administration",
        "sql-syntax-utility", "replication-master-sql", "replication-slave-sql",
        "replication-group-sql"].map fun page => (mysqlManual ++ page ++ ".html").toList
      selectors := ["#docs-main dt span.section a".toList]
      pattern := some r"^[\d\.]+\s+(.*)\s+Syntax".toList }
  keywords := some
    { urls := [(mysqlManual ++ "keywords.html").toList]
      selectors := ["#docs-body li.listitem code.literal".toList] }

/-- PostgreSQL. Names of commands may be broken over two lines. -/
def pgsql : VendorDraft where
  skip := true
  commands := some
    { urls := ["https://www.postgresql.org/docs/10/static/sql-commands.html".toList]
      selectors := ["#SQL-COMMANDS .refentrytitle a".toList]
      replacement := some (r"\n".toList, " ".toList) }
  keywords := some
    { urls := ["https://www.postgresql.org/docs/10/static/sql-keywords-appendix.html".toList]
      selectors := ["#KEYWORDS-TABLE code.token".toList] }

def standard : VendorDraft where
  commands := some
    { urls := [foundationGrammar]
      format := .grammar
      selectors := ["SQL executable statement".toList]
      policy := { followLeading := true } }
  keywords := some
    { urls := [foundationGrammar]
      format := .grammar
      selectors := ["reserved word".toList, "non-reserved word".toList] }

/-- The draft of the built-in table. -/
def builtin : TableDraft :=
  [("db2".toList, db2), ("n1ql".toList, { skip := true }), ("oracle".toList, oracle),
    ("mssql".toList, { skip := true }), ("mysql".toList, mysql), ("pgsql".toList, pgsql),
    ("standard".toList, standard)]

end TableDraft

def VendorTable.builtin (engine : Pattern.Engine) : Except Error VendorTable :=
  TableDraft.builtin.compile engine

end SqlVocabulary
