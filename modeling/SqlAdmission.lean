import SqlAdmission.Proofs.AccessDecision
import SqlAdmission.Proofs.Admission
import SqlAdmission.Proofs.BindingVerdict
import SqlAdmission.Proofs.DeclaredRoles
import SqlAdmission.Proofs.DenialRemedy
import SqlAdmission.Proofs.EmptyGrant
import SqlAdmission.Proofs.GrantHint
import SqlAdmission.Proofs.IdentifierLife
import SqlAdmission.Proofs.LastDeployment
import SqlAdmission.Proofs.LoadOrder
import SqlAdmission.Proofs.MergedGrant
import SqlAdmission.Proofs.MisfiledRows
import SqlAdmission.Proofs.MismatchNames
import SqlAdmission.Proofs.PublicFallback
import SqlAdmission.Proofs.PublicGrant
import SqlAdmission.Proofs.ReadDiscipline
import SqlAdmission.Proofs.RefusedChange
import SqlAdmission.Proofs.RequirementList
import SqlAdmission.Session.Basic
import SqlAdmission.Proofs.AuditLog
import SqlAdmission.Proofs.NameSpelling
