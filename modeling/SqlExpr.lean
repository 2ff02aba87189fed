import SqlExpr.Compiler.Describe
import SqlExpr.Compiler.Total
import SqlExpr.Node.Build
import SqlExpr.Node.Form
import SqlExpr.State.Script
import SqlExpr.Proofs.Demand
import SqlExpr.Proofs.Dispatch
import SqlExpr.Proofs.Faults
import SqlExpr.Proofs.Grammar.Brackets
import SqlExpr.Proofs.Operators.Unambiguous
import SqlExpr.Proofs.Placeholders
import SqlExpr.Proofs.Resolution
import SqlExpr.Proofs.Rewriting
import SqlExpr.Proofs.State.Guard
import SqlExpr.Proofs.State.Hidden
import SqlExpr.Proofs.Script
import SqlExpr.Proofs.Isolation
import SqlExpr.Proofs.Root
import SqlExpr.Proofs.State.Compact
import SqlExpr.Proofs.State.Copied
import SqlExpr.Proofs.Simulation
import SqlExpr.Proofs.Copying
import SqlExpr.Proofs.Naming
import SqlExpr.Proofs.Node.Identity
import SqlExpr.Proofs.Identity
import SqlExpr.Proofs.View
import SqlExpr.Proofs.SetOperands
import SqlExpr.Proofs.Operators.Nesting
import SqlExpr.Proofs.Operators.Sides
import SqlExpr.Proofs.ReplacementFrames
import SqlExpr.Proofs.Flattening
import SqlExpr.Proofs.Comments
import SqlExpr.Proofs.Extension
import SqlExpr.Proofs.Literals
import SqlExpr.Proofs.Clauses
import SqlExpr.Proofs.Failures
import SqlExpr.Proofs.State.Views
import SqlExpr.Proofs.Inheritance
