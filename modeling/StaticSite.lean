import StaticSite.Main
import StaticSite.Proofs.Build.Account
import StaticSite.Proofs.Build.CopiedTree
import StaticSite.Proofs.Build.Disk
import StaticSite.Proofs.Build.FinalTitle
import StaticSite.Proofs.Build.Incremental
import StaticSite.Proofs.Build.InsertedValue
import StaticSite.Proofs.Build.NavigationPlace
import StaticSite.Proofs.Build.SharedOutput
import StaticSite.Proofs.Build.SourceKept
import StaticSite.Proofs.Build.StaticPage
import StaticSite.Proofs.Navigation.SecondTurn
import StaticSite.Proofs.Page.Report
import StaticSite.Proofs.Text.Lines
import StaticSite.Proofs.Text.Trim
import StaticSite.Proofs.Frontmatter.Line
import StaticSite.Proofs.Frontmatter.Values
import StaticSite.Proofs.Frontmatter.Block
import StaticSite.Proofs.Frontmatter.Layout
import StaticSite.Proofs.Html.TitleSearch
import StaticSite.Proofs.Page.TitleValue
import StaticSite.Proofs.Placeholder.Scan
import StaticSite.Proofs.Navigation.ReadBack
import StaticSite.Proofs.Html.ClosingTag
import StaticSite.Proofs.Navigation.Href
import StaticSite.Proofs.Build.EventLines
import StaticSite.Proofs.Page.BodyMacro
